import RecordSchema.Decimal.Binary64

/-! # Shortest decimals

Among the decimals that round to a given number, those with the fewest digits are wanted, and of
these the nearest. For each count of digits up to seventeen it is enough to look at the two
neighbours of the number on the grid of that many digits.
-/
namespace RecordSchema.Decimal

/-- A decimal: `digits` times ten to the `exponent`. -/
structure Scaled where
  digits : Nat
  exponent : Int
deriving DecidableEq, Repr

/-- The reals that round to a number: from `low` to `high`, counted in `unit` (a ratio) around the
number `mid`; the two ends belong to it when `closed`. -/
structure Basin where
  low : Nat
  mid : Nat
  high : Nat
  unit : Nat × Nat
  closed : Bool

/-- Below a power of two the numbers lie twice as dense, so the lower end is half as far away. -/
def basin (significand : Nat) (exponent : Int) : Basin :=
  let low :=
    if significand = leastFull ∧ leastExponent < exponent then 4 * significand - 1
    else 4 * significand - 2
  ⟨low, 4 * significand, 4 * significand + 2, power 2 (exponent - 2), significand % 2 = 0⟩

/-- Whether `c` grid steps of size `grid` lie in the basin. -/
def Basin.holds (b : Basin) (grid : Nat × Nat) (c : Nat) : Bool :=
  let x := c * grid.1 * b.unit.2
  let low := b.low * b.unit.1 * grid.2
  let high := b.high * b.unit.1 * grid.2
  if b.closed then decide (low ≤ x) && decide (x ≤ high) else decide (low < x) && decide (x < high)

/-- The decimal of at most `count` digits that lies in the basin nearest to its middle. -/
def nearest? (b : Basin) (magnitude : Int) (count : Nat) : Option Scaled :=
  let e := magnitude - count + 1
  let grid := power 10 e
  let num := b.mid * b.unit.1 * grid.2
  let den := b.unit.2 * grid.1
  let below := num / den
  let above := below + 1
  let nearer := if 2 * (num % den) ≤ den then below else above
  if b.holds grid nearer then some ⟨nearer, e⟩
  else if b.holds grid below then some ⟨below, e⟩
  else if b.holds grid above then some ⟨above, e⟩
  else none

/-- The digits without the zeros at their end. -/
def trimZeros (s : Scaled) : Scaled :=
  let zeros := ((Nat.toDigits 10 s.digits).reverse.takeWhile (· == '0')).length
  if s.digits = 0 then s else ⟨s.digits / Nat.pow 10 zeros, s.exponent + zeros⟩

/-- The decimal exponent of the leading digit of a positive number. -/
def decimalMagnitude (num den : Nat) : Int :=
  settleExponent 10 num den
    (((Nat.toDigits 10 num).length : Int) - ((Nat.toDigits 10 den).length : Int))

def shortest (significand : Nat) (exponent : Int) : Scaled :=
  let b := basin significand exponent
  let value := power 2 exponent
  let magnitude := decimalMagnitude (significand * value.1) value.2
  match (List.range 17).findSome? fun k => nearest? b magnitude (k + 1) with
  | some s => trimZeros s
  | none => ⟨significand * value.1, 0⟩

end RecordSchema.Decimal
