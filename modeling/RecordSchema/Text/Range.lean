/-! # Runs of code points

A property of characters is kept as an ascending list of runs, each given by its first and last
code point.
-/
namespace RecordSchema.Text

def inRanges (runs : List (Nat × Nat)) (n : Nat) : Bool :=
  runs.any fun r => decide (r.1 ≤ n) && decide (n ≤ r.2)

end RecordSchema.Text
