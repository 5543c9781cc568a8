import RecordSchema.Named
import RecordSchema.Value

/-! # Combining values bit by bit

A whole number is an endless row of bits, which from some place on are all equal. Two numbers are
combined place by place; truth values stay truth values when both operands are.
-/
namespace RecordSchema.Value

/-- How many places it takes to see the sign of a number. -/
def signWidth (i : Int) : Nat := Nat.log2 i.natAbs + 2

/-- The number whose lowest places are the given ones, the highest of them being its sign. -/
def ofPlaces (width n : Nat) : Int :=
  if n < Nat.pow 2 (width - 1) then n else (n : Int) - Nat.pow 2 width

def placeByPlace (f : Bool → Bool → Bool) (a b : Int) : Int :=
  let width := max (signWidth a) (signWidth b)
  let places := fun (i : Int) => (i % Nat.pow 2 width).toNat
  ofPlaces width (Nat.bitwise f (places a) (places b))

/-- What a bitwise operation makes of two numbers; none where an operand is something else. -/
def bitwise? (f : Bool → Bool → Bool) : Value → Value → Option Value
  | bool a, bool b => some (bool (f a b))
  | bool a, int b => some (int (placeByPlace f (if a then 1 else 0) b))
  | int a, bool b => some (int (placeByPlace f a (if b then 1 else 0)))
  | int a, int b => some (int (placeByPlace f a b))
  | _, _ => none

/-- The union of two values: of tables, where the right one wins, or of bits. -/
def united? : Value → Value → Option Value
  | table a, table b => some (table (Named.putAll a b))
  | a, b => bitwise? (· || ·) a b

end RecordSchema.Value
