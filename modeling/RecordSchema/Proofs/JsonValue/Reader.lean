import Mathlib.Data.Nat.Digits.Defs
import RecordSchema.JsonValue
import RecordSchema.Text.Digit

/-! # Reading JSON

Blanks may stand around every value, bracket, comma and colon. A text ends at its closing quote and
holds no control characters; two escapes that form a surrogate pair are one character. Of the
numbers only the whole ones are read, as a `JsonValue` holds no others.
-/
namespace RecordSchema.JsonValue

def isBlank (c : Char) : Bool := c == ' ' || c == '\t' || c == '\n' || c == '\r'

def skipBlanks (cs : List Char) : List Char := cs.dropWhile isBlank

/-! ## Texts -/

/-- What the character behind a backslash stands for. -/
def escapes : List (Char × Char) :=
  [('\x22', '\x22'), ('\\', '\\'), ('/', '/'), ('b', '\x08'), ('f', '\x0c'), ('n', '\n'),
    ('r', '\r'), ('t', '\t')]

def hexNumber? (digits : List Char) : Option Nat :=
  digits.foldlM (fun n c => (Text.hexDigitValue? c).map (n * 16 + ·)) 0

/-- The numbers of the characters up to the closing quote, where an escape counts with the UTF-16
unit that it gives, and what follows the quote. -/
def readUnits : List Char → Option (List Nat × List Char)
  | [] => none
  | '\x22' :: cs => some ([], cs)
  | '\\' :: 'u' :: a :: b :: c :: d :: cs => do
    let n ← hexNumber? [a, b, c, d]
    let (ns, rest) ← readUnits cs
    return (n :: ns, rest)
  | '\\' :: e :: cs => do
    let c ← escapes.lookup e
    let (ns, rest) ← readUnits cs
    return (c.toNat :: ns, rest)
  | c :: cs =>
    if c.toNat < 0x20 then none
    else do
      let (ns, rest) ← readUnits cs
      return (c.toNat :: ns, rest)

def character? (n : Nat) : Option Char := if n.isValidChar then some (Char.ofNat n) else none

def isPair (high low : Nat) : Bool :=
  decide (0xd800 ≤ high) && decide (high < 0xdc00) && decide (0xdc00 ≤ low) && decide (low < 0xe000)

/-- The characters of a text. A surrogate without its partner is none. -/
def joinUnits : List Nat → Option (List Char)
  | [] => some []
  | [n] => (character? n).map ([·])
  | high :: low :: ns =>
    if isPair high low then do
      let c ← character? (0x10000 + (high - 0xd800) * 0x400 + (low - 0xdc00))
      let cs ← joinUnits ns
      return c :: cs
    else do
      let c ← character? high
      let cs ← joinUnits (low :: ns)
      return c :: cs

/-- A text from behind its opening quote. -/
def readText (cs : List Char) : Option (String × List Char) := do
  let (ns, rest) ← readUnits cs
  let text ← joinUnits ns
  return (String.ofList text, rest)

/-! ## Numbers -/

/-- Decimal digits without needless zeros in front. -/
def readNatural (cs : List Char) : Option (Nat × List Char) :=
  let digits := cs.takeWhile Char.isDigit
  let n := Nat.ofDigitChars 10 digits 0
  if Nat.toDigits 10 n = digits then some (n, cs.dropWhile Char.isDigit) else none

def readNumber : List Char → Option (Int × List Char)
  | '-' :: cs => (readNatural cs).map fun (n, rest) => (-(n : Int), rest)
  | cs => (readNatural cs).map fun (n, rest) => ((n : Int), rest)

/-! ## Values -/

/-- What stands behind a character that must come next. -/
def expect (c : Char) (cs : List Char) : Option (List Char) :=
  match skipBlanks cs with
  | d :: rest => if d = c then some rest else none
  | [] => none

/-- Parts with commas between them, up to the closing bracket. -/
def readParts {α : Type} (part : List Char → Option (α × List Char)) (closing : Char) :
    Nat → List Char → Option (List α × List Char)
  | 0, _ => none
  | steps + 1, cs => do
    let (x, cs) ← part cs
    match expect closing cs with
    | some rest => return ([x], rest)
    | none =>
      let cs ← expect ',' cs
      let (xs, rest) ← readParts part closing steps cs
      return (x :: xs, rest)

def readBracketed {α : Type} (part : List Char → Option (α × List Char)) (closing : Char)
    (steps : Nat) (cs : List Char) : Option (List α × List Char) :=
  match expect closing cs with
  | some rest => some ([], rest)
  | none => readParts part closing steps cs

def readEntry (value : List Char → Option (JsonValue × List Char)) (cs : List Char) :
    Option ((String × JsonValue) × List Char) := do
  let cs ← expect '\x22' cs
  let (key, cs) ← readText cs
  let cs ← expect ':' cs
  let (v, rest) ← value cs
  return ((key, v), rest)

/-- Values inside a value are read with one step less. -/
def readValue : Nat → List Char → Option (JsonValue × List Char)
  | 0, _ => none
  | steps + 1, cs =>
    match skipBlanks cs with
    | 't' :: 'r' :: 'u' :: 'e' :: cs => some (bool true, cs)
    | 'f' :: 'a' :: 'l' :: 's' :: 'e' :: cs => some (bool false, cs)
    | '\x22' :: cs => (readText cs).map fun (s, rest) => (text s, rest)
    | '[' :: cs =>
      (readBracketed (readValue steps) ']' steps cs).map fun (vs, rest) => (array vs, rest)
    | '\x7b' :: cs =>
      (readBracketed (readEntry (readValue steps)) '\x7d' steps cs).map fun (es, rest) =>
        (object es, rest)
    | cs => (readNumber cs).map fun (n, rest) => (number n, rest)

/-- The value that a text holds, with nothing but blanks behind it. -/
def parse (s : String) : Option JsonValue :=
  match readValue s.length s.toList with
  | some (v, rest) => if (skipBlanks rest).isEmpty then some v else none
  | none => none

/-- The value that an object gives a key; of several the last one counts. -/
def member? (key : String) : JsonValue → Option JsonValue
  | object entries => entries.reverse.lookup key
  | _ => none

end RecordSchema.JsonValue
