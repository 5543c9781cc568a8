import RecordSchema.Decimal.Text
import RecordSchema.Text.Digit
import RecordSchema.Value

/-! # Numbers in expressions

Whole numbers are decimal or marked with one of three other bases; other numbers have a point, an
exponent or both, and a `j` behind a decimal number makes it imaginary. An underscore may stand
between two digits. A number must not run into a word, unless that word continues the expression.
-/
namespace RecordSchema.Expression

/-- A run of digits, each underscore of which stands between two of them, and what follows it. -/
def digitRun (isDigit : Char → Bool) : List Char → Option (List Char × List Char)
  | [] => none
  | c :: cs =>
    if !isDigit c then none
    else match cs with
      | '_' :: d :: rest => (digitRun isDigit (d :: rest)).map fun r => (c :: r.1, r.2)
      | '_' :: [] => none
      | d :: rest =>
        if isDigit d then (digitRun isDigit (d :: rest)).map fun r => (c :: r.1, r.2)
        else some ([c], d :: rest)
      | [] => some ([c], [])

def isBaseDigit (size : Nat) (c : Char) : Bool :=
  match Text.hexDigitValue? c with
  | some n => decide (n < size)
  | none => false

def baseSize? : Char → Option Nat
  | 'x' | 'X' => some 16
  | 'o' | 'O' => some 8
  | 'b' | 'B' => some 2
  | _ => none

def wholeIn (size : Nat) (digits : List Char) : Nat :=
  digits.foldl (fun n c => n * size + (Text.hexDigitValue? c).getD 0) 0

/-- A digit, a letter or an underscore of any script may continue a name. -/
def isNameChar (c : Char) : Bool := c.isAlphanum || c == '_' || decide (0x80 ≤ c.toNat)

/-- The words that may follow a number without a blank. -/
def tailWords : List (List Char) :=
  [['a', 'n', 'd'], ['e', 'l', 's', 'e'], ['f', 'o', 'r'], ['i', 'f'], ['i', 'n'], ['i', 's'],
    ['o', 'r'], ['n', 'o', 't']]

def endsNumber (rest : List Char) : Bool :=
  match rest with
  | [] => true
  | c :: _ => !isNameChar c || tailWords.any fun w => w.isPrefixOf rest

/-- Digits behind a point; there may be none. -/
def fractionRun (cs : List Char) : Option (List Char × List Char) :=
  match cs with
  | c :: _ => if c.isDigit then digitRun Char.isDigit cs else some ([], cs)
  | [] => some ([], [])

/-- An exponent, which is there only if it has a digit. -/
def exponentRun (cs : List Char) : Option (List Char × List Char) :=
  let tail := fun (mark rest : List Char) =>
    match rest with
    | d :: _ =>
      if d.isDigit then (digitRun Char.isDigit rest).map fun r => (mark ++ r.1, r.2)
      else some ([], cs)
    | [] => some ([], cs)
  match cs with
  | 'e' :: '+' :: rest | 'E' :: '+' :: rest => tail ['e'] rest
  | 'e' :: '-' :: rest | 'E' :: '-' :: rest => tail ['e', '-'] rest
  | 'e' :: rest | 'E' :: rest => tail ['e'] rest
  | _ => some ([], cs)

/-- A number on the imaginary axis, written with a `j` and without an empty fraction. -/
def imaginary (x : Decimal.Binary64) : Value :=
  let s := x.text.toList
  let s := if ['0', '.'].isPrefixOf s.reverse then s.take (s.length - 2) else s
  .thing "complex" (String.ofList (s ++ ['j']))

/-- The value of a decimal number from its parts. `pointed` tells whether a point is among them. A
whole number with too many digits cannot be read. -/
def decimalValue (whole fraction exponent : List Char) (pointed isImaginary : Bool) : Option Value :=
  if pointed || !exponent.isEmpty || isImaginary then
    (Decimal.read? (whole ++ '.' :: fraction ++ exponent)).map fun x =>
      if isImaginary then imaginary x else .float x
  else if whole.head? == some '0' && whole.any (· != '0') then none
  else if Text.digitLimit < whole.length then none
  else some (.int (wholeIn 10 whole))

def decimalNumber (cs : List Char) : Option (Value × List Char) := do
  let (whole, rest) ← if cs.head? == some '.' then some ([], cs) else digitRun Char.isDigit cs
  let (fraction, pointed, rest) ← match rest with
    | '.' :: rest => (fractionRun rest).map fun r => (r.1, true, r.2)
    | rest => some ([], false, rest)
  let (exponent, rest) ← exponentRun rest
  let (isImaginary, rest) := match rest with
    | 'j' :: rest | 'J' :: rest => (true, rest)
    | rest => (false, rest)
  if endsNumber rest then
    (decimalValue whole fraction exponent pointed isImaginary).map fun v => (v, rest)
  else none

/-- The number at the front of a text that begins with a digit, or with a point and a digit. -/
def number (cs : List Char) : Option (Value × List Char) :=
  match cs with
  | '0' :: mark :: rest =>
    match baseSize? mark with
    | none => decimalNumber cs
    | some size => do
      let digits := match rest with
        | '_' :: more => more
        | more => more
      let (digits, rest) ← digitRun (isBaseDigit size) digits
      if endsNumber rest then some (.int (wholeIn size digits), rest) else none
  | _ => decimalNumber cs

end RecordSchema.Expression
