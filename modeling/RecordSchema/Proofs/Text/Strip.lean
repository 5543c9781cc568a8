import Mathlib.Data.List.DropRight
import RecordSchema.Text.Blank

/-! # Texts without blanks at their ends

Stripping leaves a text that strips to itself.
-/
namespace RecordSchema.Text

/-- A text that does not begin with a blank does not begin with one when its end is cut. -/
theorem dropWhile_stripEnd {cs : List Char} (h : cs.dropWhile isBlank = cs) :
    (stripEnd cs).dropWhile isBlank = stripEnd cs := by
  rw [List.dropWhile_eq_self_iff] at h ⊢
  intro hl
  have hp : stripEnd cs <+: cs := List.rdropWhile_prefix isBlank cs
  have hc := h (hl.trans_le hp.length_le)
  rwa [← hp.getElem hl] at hc

theorem stripChars_stripChars (cs : List Char) : stripChars (stripChars cs) = stripChars cs := by
  have hf : (cs.dropWhile isBlank).dropWhile isBlank = cs.dropWhile isBlank :=
    List.dropWhile_idempotent isBlank cs
  have hl : (stripChars cs).dropWhile isBlank = stripChars cs := dropWhile_stripEnd hf
  have he : stripEnd (stripChars cs) = stripChars cs :=
    List.rdropWhile_idempotent isBlank (cs.dropWhile isBlank)
  rw [stripChars, hl, he]

theorem strip_strip (s : String) : strip (strip s) = strip s := by
  rw [strip, strip, String.toList_ofList, stripChars_stripChars]

end RecordSchema.Text
