import RecordSchema.Decimal.Text
import RecordSchema.Text.Blank
import RecordSchema.Text.Digit
import RecordSchema.Toml.Text
import RecordSchema.Value

/-! # Numbers in TOML

Whole numbers are decimal or, without a sign, in one of three other bases; other numbers have a
fraction, an exponent or a name. An underscore may stand between two digits. A decimal number has
no needless zero in front. Blanks of any kind that end the token do not count.
-/
namespace RecordSchema.Toml

open Text (hexDigitValue?)

structure Base where
  size : Nat
  mark : List Char
deriving DecidableEq, Repr

def decimalBase : Base := ⟨10, []⟩

def markedBases : List Base := [⟨16, ['0', 'x']⟩, ⟨8, ['0', 'o']⟩, ⟨2, ['0', 'b']⟩]

def baseOf (cs : List Char) : Base :=
  (markedBases.find? fun b => b.mark.isPrefixOf cs).getD decimalBase

def digitIn? (size : Nat) (c : Char) : Option Nat := (hexDigitValue? c).filter (· < size)

def isDigitIn (size : Nat) (c : Char) : Bool := (digitIn? size c).isSome

/-- The text without the underscores that stand between two digits; none where another one is
left. `before` tells whether a digit stands before the text. -/
def joinDigits? (size : Nat) : Bool → List Char → Option (List Char)
  | _, [] => some []
  | before, '_' :: cs =>
    match cs with
    | c :: _ => if before && isDigitIn size c then joinDigits? size false cs else none
    | [] => none
  | _, c :: cs => (joinDigits? size (isDigitIn size c) cs).map (c :: ·)

/-- Zeros in front are allowed only before a fraction, an exponent or the letter of a base. -/
def hasLeadingZero (cs : List Char) : Bool :=
  match cs with
  | '0' :: c :: _ => !(['.', 'o', 'x', 'b', 'e', 'E'].contains c)
  | _ => false

/-- A point needs a digit behind it. -/
def hasOpenPoint (cs : List Char) : Bool :=
  (cs.takeWhile fun c => c != 'e' && c != 'E').getLast? == some '.'

/-- A signed number begins with a digit, or it is one of two names. -/
def beginsNumber (cs : List Char) : Bool :=
  match cs with
  | c :: _ => (Text.decimalValue? c).isSome || cs == ['i', 'n', 'f'] || cs == ['n', 'a', 'n']
  | [] => false

/-- Decimal digits of any script in their ASCII form. -/
def asciiDigit (c : Char) : Char :=
  match Text.decimalValue? c with
  | some n => Nat.digitChar n
  | none => c

/-- A decimal number with too many digits is not read as a whole number. -/
def readWhole? (b : Base) (cs : List Char) : Option Nat :=
  match Text.dropFront? b.mark cs with
  | some (c :: digits) =>
    if b = decimalBase ∧ Text.digitLimit < (c :: digits).length then none
    else (c :: digits).foldlM (fun n c => (digitIn? b.size c).map (n * b.size + ·)) 0
  | _ => none

/-- The number that a token writes. -/
def number? (raw : List Char) : Option Value :=
  let (negative, body) := Decimal.splitSign raw
  let signed := body.length != raw.length
  let b := baseOf body
  if hasLeadingZero body || (signed && (b != decimalBase || !beginsNumber body)) then none
  else (joinDigits? b.size false body).bind fun clean =>
    if b == decimalBase && hasOpenPoint clean then none else
    let clean := (Text.stripEnd clean).map asciiDigit
    match readWhole? b clean with
    | some n => some (.int (if negative then -(n : Int) else n))
    | none =>
      (Decimal.read? ((if negative then ['-'] else []) ++ clean)).map .float

end RecordSchema.Toml
