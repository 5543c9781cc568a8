/-! # Double precision numbers

A finite number is a signed whole significand times a power of two. `ofRatio` rounds a positive
ratio to the nearest such number, a tie going to the even significand; all arithmetic is on whole
numbers.
-/
namespace RecordSchema.Decimal

inductive Binary64 where
  | nan
  | infinite (negative : Bool)
  | finite (negative : Bool) (significand : Nat) (exponent : Int)
deriving DecidableEq, Repr

/-- The least significand of full precision. -/
def leastFull : Nat := 0x10000000000000

/-- The exponent of the least power of two that a number can be a multiple of. -/
def leastExponent : Int := -1074

/-- The greatest exponent that a full significand of 53 bits can have. -/
def greatestExponent : Int := 971

/-- The ratio that a power of `base` is. -/
def power (base : Nat) (e : Int) : Nat × Nat :=
  if e < 0 then (1, Nat.pow base (-e).toNat) else (Nat.pow base e.toNat, 1)

/-- The quotient rounded to the nearest whole number, a half to the even one. -/
def roundHalfEven (num den : Nat) : Nat :=
  let q := num / den
  let twice := 2 * (num % den)
  if twice < den then q else if den < twice then q + 1 else if q % 2 = 0 then q else q + 1

/-- The greatest `e` for which `base ^ e` is at most the positive ratio, given a guess that is that
`e` or the one above. -/
def settleExponent (base num den : Nat) (guess : Int) : Int :=
  let p := power base guess
  if num * p.2 < p.1 * den then guess - 1 else guess

def binaryExponent (num den : Nat) : Int :=
  settleExponent 2 num den ((num.log2 : Int) - (den.log2 : Int))

def ofRatio (negative : Bool) (num den : Nat) : Binary64 :=
  if num = 0 then .finite negative 0 leastExponent else
  let e := max (binaryExponent num den - 52) leastExponent
  let p := power 2 e
  let m := roundHalfEven (num * p.2) (den * p.1)
  let (m, e) := if m = 2 * leastFull then (leastFull, e + 1) else (m, e)
  if greatestExponent < e then .infinite negative else .finite negative m e

/-- The number nearest to `m` times ten to the `e`. Exponents far outside the range of the format
are settled before any power is computed. -/
def ofDecimal (negative : Bool) (m : Nat) (e : Int) : Binary64 :=
  let magnitude := ((Nat.toDigits 10 m).length : Int) + e
  if m = 0 ∨ magnitude < -400 then .finite negative 0 leastExponent
  else if 400 < magnitude then .infinite negative
  else
    let p := power 10 e
    ofRatio negative (m * p.1) p.2

end RecordSchema.Decimal
