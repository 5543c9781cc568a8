import RecordSchema.Text.Digit
import RecordSchema.Toml.Lexeme

/-! # Texts in TOML

Texts stand between single or double quotes, one or three on each side. Double quotes admit
escapes. Three quotes admit line ends, drop one that follows them at once, and let up to two more
quotes of their kind stand before the closing ones.
-/
namespace RecordSchema.Toml

open Text (codePoint?)

def simpleEscapes : List (Char × Char) :=
  [('b', '\x08'), ('t', '\t'), ('n', '\n'), ('f', '\x0c'), ('r', '\r'), ('e', '\x1b'),
    ('\x22', '\x22'), ('\\', '\\')]

/-- How many hexadecimal digits an escape takes. -/
def escapeWidth? : Char → Option Nat
  | 'x' => some 2
  | 'u' => some 4
  | 'U' => some 8
  | _ => none

/-- The character of an escape, given what follows the backslash, and how many characters it is
written with. -/
def escaped? : List Char → Option (Char × Nat)
  | [] => none
  | c :: cs =>
    match escapeWidth? c with
    | some n => if (cs.take n).length = n then (codePoint? (cs.take n)).map (·, n + 1) else none
    | none => (simpleEscapes.lookup c).map (·, 1)

/-- How many blanks and line ends follow a backslash that takes the end of its line out of the
text; none when there is no line end among them. -/
def lineJoin? (cs : List Char) : Option Nat :=
  let blanks := cs.takeWhile fun c => isSpace c || c == '\n'
  if blanks.contains '\n' then some blanks.length else none

/-- A text on one line, after its opening quote. `skip` counts the characters of an escape that are
still to be passed over. -/
def lineText (quote : Char) (escapes : Bool) : List Char → Nat → Except Fault (List Char × List Char)
  | [], _ => bad
  | _ :: cs, skip + 1 => lineText quote escapes cs skip
  | c :: cs, 0 =>
    if c = quote then .ok ([], cs)
    else if isControl c then bad
    else if c = '\\' ∧ escapes then
      match escaped? cs with
      | none => bad
      | some (e, n) => do
        let (text, rest) ← lineText quote escapes cs n
        .ok (e :: text, rest)
    else do
      let (text, rest) ← lineText quote escapes cs 0
      .ok (c :: text, rest)

/-- A run of quotes inside a text of several lines: `none` while the run is too short to close it,
else how many of its quotes belong to the text. -/
def closingRun (run : Nat) : Except Fault (Option Nat) :=
  if run < 3 then .ok none else if run ≤ 5 then .ok (some (run - 3)) else bad

def isMultilineControl (c : Char) : Bool := isControl c && c != '\n'

/-- A text of several lines, after its opening quotes. -/
def linesText (quote : Char) (escapes : Bool) :
    List Char → Nat → Except Fault (List Char × List Char)
  | [], _ => bad
  | _ :: cs, skip + 1 => linesText quote escapes cs skip
  | c :: cs, 0 =>
    if c = quote then do
      match ← closingRun ((c :: cs).takeWhile (· == quote)).length with
      | some n => .ok (List.replicate n quote, (c :: cs).drop (n + 3))
      | none => do
        let (text, rest) ← linesText quote escapes cs 0
        .ok (c :: text, rest)
    else if isMultilineControl c then bad
    else if c = '\\' ∧ escapes then
      match lineJoin? cs with
      | some n => linesText quote escapes cs n
      | none =>
        match escaped? cs with
        | none => bad
        | some (e, n) => do
          let (text, rest) ← linesText quote escapes cs n
          .ok (e :: text, rest)
    else do
      let (text, rest) ← linesText quote escapes cs 0
      .ok (c :: text, rest)

def dropLineEnd : List Char → List Char
  | '\n' :: cs => cs
  | cs => cs

/-- Any text, its opening quotes included. -/
def text (cs : List Char) : Except Fault (String × List Char) :=
  match cs with
  | c :: rest =>
    if c = '\x27' ∨ c = '\x22' then do
      let escapes := c == '\x22'
      let (t, rest) ←
        match Text.dropFront? [c, c] rest with
        | some rest => linesText c escapes (dropLineEnd rest) 0
        | none => lineText c escapes rest 0
      .ok (String.ofList t, rest)
    else bad
  | [] => bad

end RecordSchema.Toml
