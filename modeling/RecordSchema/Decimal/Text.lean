import RecordSchema.Decimal.Shortest

/-! # Numbers as text

A number shows with the fewest digits that read back as the same number: positionally from
one ten-thousandth up to ten to the sixteenth, where whole numbers keep a point and a zero, else
as one digit, a fraction and a signed exponent of at least two digits.
-/
namespace RecordSchema.Decimal

def signText (negative : Bool) : String := if negative then "-" else ""

def exponentText (e : Int) : String :=
  let digits := toString e.natAbs
  (if e < 0 then "e-" else "e+") ++ (if digits.length < 2 then "0" ++ digits else digits)

def zeroText (n : Nat) : List Char := List.replicate n '0'

def layout (s : Scaled) : String :=
  let digits := Nat.toDigits 10 s.digits
  let e := (digits.length : Int) - 1 + s.exponent
  if -4 ≤ e ∧ e < 16 then
    if 0 ≤ s.exponent then String.ofList (digits ++ zeroText s.exponent.toNat ++ ['.', '0'])
    else if 0 ≤ e then
      String.ofList (digits.take (e.toNat + 1) ++ ['.'] ++ digits.drop (e.toNat + 1))
    else String.ofList (['0', '.'] ++ zeroText (-e - 1).toNat ++ digits)
  else
    let fraction := if digits.length ≤ 1 then [] else '.' :: digits.drop 1
    String.ofList (digits.take 1 ++ fraction) ++ exponentText e

def Binary64.text : Binary64 → String
  | .nan => "nan"
  | .infinite negative => signText negative ++ "inf"
  | .finite negative 0 _ => signText negative ++ "0.0"
  | .finite negative m e => signText negative ++ layout (shortest m e)

def digitValue (cs : List Char) : Nat := cs.foldl (fun n c => n * 10 + (c.toNat - '0'.toNat)) 0

/-- The sign in front of a number and what follows it. -/
def splitSign : List Char → Bool × List Char
  | '-' :: cs => (true, cs)
  | '+' :: cs => (false, cs)
  | cs => (false, cs)

/-- The exponent that ends a number: none where something else stands there. -/
def readExponent? : List Char → Option Int
  | [] => some 0
  | c :: cs =>
    if c = 'e' ∨ c = 'E' then
      let (negative, digits) := splitSign cs
      if digits.isEmpty || !digits.all Char.isDigit then none
      else some (if negative then -(digitValue digits : Int) else digitValue digits)
    else none

/-- The number that a text writes, in any of the usual spellings. -/
def read? (cs : List Char) : Option Binary64 :=
  let (negative, body) := splitSign cs
  let word := String.ofList (body.map Char.toLower)
  if word = "inf" ∨ word = "infinity" then some (.infinite negative)
  else if word = "nan" then some .nan
  else
    let whole := body.takeWhile Char.isDigit
    let rest := body.dropWhile Char.isDigit
    let (fraction, rest) := match rest with
      | '.' :: r => (r.takeWhile Char.isDigit, r.dropWhile Char.isDigit)
      | r => ([], r)
    if whole.isEmpty && fraction.isEmpty then none
    else (readExponent? rest).map fun e =>
      ofDecimal negative (digitValue (whole ++ fraction)) (e - fraction.length)

end RecordSchema.Decimal
