/-! # Whole numbers as text

A whole number is written in decimal digits, but only if there are not too many of them: a longer
number has no text, and neither has anything that would hold it. The digits of another base are
never too many.
-/
namespace RecordSchema

/-- Why something has no text. -/
inductive WriteError where
  | tooManyDigits
deriving DecidableEq, Repr

namespace Text

/-- The most decimal digits that a whole number is read or written with. -/
def digitLimit : Nat := 4300

/-- Whether a whole number has more decimal digits than that. Its sign is none of them. -/
def isTooLong (n : Int) : Bool := decide (digitLimit < (Nat.toDigits 10 n.natAbs).length)

/-- The least number that is too long. -/
def leastLong : Nat := Nat.pow 10 digitLimit

def whole (n : Int) : Except WriteError String :=
  if isTooLong n then .error .tooManyDigits else .ok (toString n)

theorem isTooLong_iff {n : Int} : isTooLong n = true ↔ leastLong ≤ n.natAbs := by
  have h : ∀ k, 0 < k → ((Nat.toDigits 10 n.natAbs).length ≤ k ↔ n.natAbs < Nat.pow 10 k) :=
    fun k hk => Nat.length_toDigits_le_iff (by decide) hk
  unfold leastLong
  rw [isTooLong, decide_eq_true_iff, ← Nat.not_le, h digitLimit (by decide), Nat.not_lt]

theorem whole_of_short {n : Int} (h : isTooLong n = false) : whole n = .ok (toString n) := by
  rw [whole, h]
  rfl

theorem whole_of_long {n : Int} (h : isTooLong n = true) : whole n = .error .tooManyDigits := by
  rw [whole, h]
  rfl

theorem isTooLong_leastLong : isTooLong leastLong = true :=
  isTooLong_iff.mpr (Nat.le_of_eq (Int.natAbs_natCast leastLong).symm)

end Text

def WriteError.message : WriteError → String
  | .tooManyDigits =>
    "Exceeds the limit (" ++ toString Text.digitLimit ++
      " digits) for integer string conversion; use sys.set_int_max_str_digits() to increase the limit"

end RecordSchema
