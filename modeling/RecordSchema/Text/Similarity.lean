/-! # Similar texts

Two texts share the characters of their longest common run and of what the parts before and behind
it share in turn. They are similar when at least three fifths of all their characters are shared.
-/
namespace RecordSchema.Text

/-- How far two texts agree from the start. -/
def agreement : List Char → List Char → Nat
  | a :: as, b :: bs => if a = b then agreement as bs + 1 else 0
  | _, _ => 0

/-- A common run: where it starts in each of two texts, and how long it is. -/
structure Run where
  left : Nat
  right : Nat
  length : Nat
deriving DecidableEq, Repr

def runs (as bs : List Char) : List Run :=
  (List.range as.length).flatMap fun i =>
    (List.range bs.length).map fun j => ⟨i, j, agreement (as.drop i) (bs.drop j)⟩

/-- The first of the longest common runs. -/
def longestRun (as bs : List Char) : Run :=
  (runs as bs).foldl (fun best r => if best.length < r.length then r else best) ⟨0, 0, 0⟩

/-- The number of shared characters. Every run takes a character of the first text, so its length
bounds the depth. -/
def sharedWithin : Nat → List Char → List Char → Nat
  | 0, _, _ => 0
  | depth + 1, as, bs =>
    let r := longestRun as bs
    if r.length = 0 then 0
    else
      sharedWithin depth (as.take r.left) (bs.take r.right) + r.length +
        sharedWithin depth (as.drop (r.left + r.length)) (bs.drop (r.right + r.length))

def shared (s t : String) : Nat := sharedWithin s.length s.toList t.toList

def isSimilar (s t : String) : Bool := decide (3 * (s.length + t.length) ≤ 10 * shared s t)

/-- Whether `s` is more similar to `word` than `t` is, or as similar and not before it. -/
def isCloser (word s t : String) : Bool :=
  let ofS := shared s word * (t.length + word.length)
  let ofT := shared t word * (s.length + word.length)
  decide (ofT < ofS) || decide (ofT = ofS ∧ t ≤ s)

/-- How many similar texts are offered at most. -/
def offeredLimit : Nat := 3

/-- The texts most similar to a word. -/
def closest (word : String) (texts : List String) : List String :=
  ((texts.filter fun s => isSimilar s word).mergeSort (isCloser word)).take offeredLimit

end RecordSchema.Text
