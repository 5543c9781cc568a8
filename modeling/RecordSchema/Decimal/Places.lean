import RecordSchema.Decimal.Text

/-! # Numbers with a given number of places

A number with so many places behind the point, with so many places and an exponent, or with so many
digits in whichever of the two forms is the shorter. What is left out is rounded to the nearest, a
half to the even digit.
-/
namespace RecordSchema.Decimal

/-- A ratio times a power of ten, rounded to a whole number. -/
def roundedAt (num den : Nat) (places : Int) : Nat :=
  let p := power 10 places
  roundHalfEven (num * p.1) (den * p.2)

/-- Digits with a point in front of the last `places`. A point with nothing behind it stays only
where it is asked for. -/
def pointed (digits : List Char) (places : Nat) (point : Bool) : List Char :=
  let filled := zeroText (places + 1 - digits.length) ++ digits
  let whole := filled.length - places
  filled.take whole ++
    if places = 0 then (if point then ['.'] else []) else '.' :: filled.drop whole

def fixed (num den places : Nat) (point : Bool) : List Char :=
  pointed (Nat.toDigits 10 (roundedAt num den places)) places point

/-- A ratio as a number of `count` digits and the exponent of the first one. -/
def significant (num den count : Nat) : Nat × Int :=
  if num = 0 then (0, 0) else
  let e := decimalMagnitude num den
  let n := roundedAt num den (count - 1 - e)
  if n = Nat.pow 10 count then (n / 10, e + 1) else (n, e)

def exponential (num den places : Nat) (point : Bool) : List Char :=
  let (n, e) := significant num den (places + 1)
  pointed (Nat.toDigits 10 n) places point ++ (exponentText e).toList

/-- Places that hold nothing but zeros are dropped, and a point that nothing follows. -/
def withoutEmptyPlaces (cs : List Char) : List Char :=
  if cs.contains '.' then ((cs.reverse.dropWhile (· == '0')).dropWhile (· == '.')).reverse else cs

/-- Very small numbers, and those with more whole digits than are asked for, have an exponent. -/
def general (num den count : Nat) (whole : Bool) : List Char :=
  let count := max count 1
  let (n, e) := significant num den count
  let trim := fun cs => if whole then cs else withoutEmptyPlaces cs
  if -4 ≤ e ∧ e < count then trim (fixed num den ((count : Int) - 1 - e).toNat whole)
  else
    trim (pointed (Nat.toDigits 10 n) (count - 1) whole) ++ (exponentText e).toList

inductive Form where
  | fixed
  | exponential
  | general
deriving DecidableEq, Repr

/-- A number in one of the forms. `whole` keeps the point and all places. -/
def Binary64.inForm (form : Form) (places : Nat) (whole : Bool) : Binary64 → List Char
  | .nan => "nan".toList
  | .infinite negative => (signText negative ++ "inf").toList
  | .finite negative m e =>
    let p := power 2 e
    let body := match form with
      | .fixed => Decimal.fixed (m * p.1) p.2 places whole
      | .exponential => Decimal.exponential (m * p.1) p.2 places whole
      | .general => Decimal.general (m * p.1) p.2 places whole
    (signText negative).toList ++ body

end RecordSchema.Decimal
