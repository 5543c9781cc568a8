import RecordSchema.Expression.Literal
import RecordSchema.Expression.Numeral
import RecordSchema.Text.Compatible
import RecordSchema.Text.Cut
import RecordSchema.Text.Identifier

/-! # Tokens of expressions

An expression is written with words, names, numbers, texts and symbols. Blanks, comments and, inside
brackets, line ends separate them. The first line that is not empty must not be indented.
-/
namespace RecordSchema.Expression

inductive Token where
  /-- A word with a meaning of its own. -/
  | word (s : String)
  | name (s : String)
  | constant (v : Value)
  | symbol (s : String)
  | lineEnd
deriving Repr

/-- Words that are no names. -/
def reserved : List String :=
  ["False", "None", "True", "and", "as", "assert", "async", "await", "break", "class", "continue",
    "def", "del", "elif", "else", "except", "finally", "for", "from", "global", "if", "import", "in",
    "is", "lambda", "nonlocal", "not", "or", "pass", "raise", "return", "try", "while", "with",
    "yield"]

/-- The symbols, longer ones before the ones that they begin with. -/
def symbols : List String :=
  ["...", "**", "//", "<<", ">>", "<=", ">=", "==", "!=", ":=", "(", ")", "[", "]", "\x7b", "\x7d",
    ",", ":", ".", "+", "-", "*", "/", "%", "@", "&", "|", "^", "~", "<", ">", "="]

def symbolAt? (cs : List Char) : Option (String × List Char) :=
  symbols.findSome? fun s => (Text.dropFront? s.toList cs).map fun rest => (s, rest)

def opens (s : String) : Bool := s == "(" || s == "[" || s == "\x7b"

def closes (s : String) : Bool := s == ")" || s == "]" || s == "\x7d"

def isGap (c : Char) : Bool := c == ' ' || c == '\t' || c == '\x0c'

def isQuote (c : Char) : Bool := c == '\x27' || c == '\x22'

/-- How deep in brackets one is behind a symbol. -/
def depthAfter (s : String) (depth : Nat) : Nat :=
  if opens s then depth + 1 else if closes s then depth - 1 else depth

/-- A word or a name; a name that uses variants of letters is the name in plain letters. -/
def wordOrName (cs : List Char) : Option Token :=
  let s := String.ofList cs
  if reserved.contains s then some (.word s)
  else if Text.isName cs then some (.name (String.ofList (Text.plainForm cs)))
  else none

/-- The token at the front of a text that begins with none of what separates tokens. -/
def tokenAt? (c : Char) (cs : List Char) : Option (Token × List Char) :=
  let text := c :: cs
  let nextIsDigit := match cs with
    | d :: _ => d.isDigit
    | [] => false
  if c.isDigit || (c == '.' && nextIsDigit) then
    (number text).map fun r => (.constant r.1, r.2)
  else if isQuote c then (literal {} text).map fun r => (.constant r.1, r.2)
  else if isNameChar c then
    let run := text.takeWhile isNameChar
    let rest := text.dropWhile isNameChar
    match rest.head?.filter isQuote, mannerOf? run with
    | some _, some m => (literal m rest).map fun r => (.constant r.1, r.2)
    | _, _ => (wordOrName run).map fun t => (t, rest)
  else (symbolAt? text).map fun r => (.symbol r.1, r.2)

/-- How far the first line is indented, after so many blanks. A form feed starts anew, and a line may
be continued before it has begun. -/
def indentFrom (n : Nat) : List Char → Nat
  | '\\' :: '\n' :: cs => indentFrom n cs
  | c :: cs => if c = '\x0c' then indentFrom 0 cs else if isGap c then indentFrom (n + 1) cs else n
  | [] => n

def indent (cs : List Char) : Nat := indentFrom 0 cs

/-- A line of blanks counts as indented only if it is the last one. -/
def endsIndented (cs : List Char) : Bool := cs.all isGap && indent cs != 0

/-- The tokens of a text. Every step takes at least one character, so the length of the text bounds
their number. -/
def tokensWithin : Nat → Nat → List Char → Option (List Token)
  | _, _, [] => some []
  | 0, _, _ => none
  | n + 1, depth, c :: cs =>
    if isGap c then tokensWithin n depth cs
    else if c = '#' then tokensWithin n depth (cs.dropWhile (· != '\n'))
    else if c = '\n' then
      if depth ≠ 0 then tokensWithin n depth cs
      else if endsIndented cs then none
      else (tokensWithin n depth cs).map (.lineEnd :: ·)
    else if c = '\\' then
      match cs with
      | '\n' :: d :: rest => tokensWithin n depth (d :: rest)
      | _ => none
    else match tokenAt? c cs with
      | none => none
      | some (t, rest) =>
        let depth := match t with
          | .symbol s => depthAfter s depth
          | _ => depth
        (tokensWithin n depth rest).map (t :: ·)

def isEmptyLine (line : List Char) : Bool :=
  match line.dropWhile isGap with
  | [] => true
  | c :: _ => c == '#'

/-- The text from its first line on that is not empty. -/
def fromFirstLine (cs : List Char) : List Char :=
  ['\n'].intercalate ((Text.splitBy (· == '\n') cs).dropWhile isEmptyLine)

def tokens (s : String) : Option (List Token) :=
  let cs := fromFirstLine (Text.unifyNewlines s.toList)
  if s.toList.contains '\x00' || indent cs ≠ 0 then none else tokensWithin cs.length 0 cs

end RecordSchema.Expression
