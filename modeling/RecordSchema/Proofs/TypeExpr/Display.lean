import RecordSchema.Proofs.Value.Text
import RecordSchema.TypeExpr.Display
import RecordSchema.TypeExpr.Kind

/-! # Which types have a text

A type has no text if some part of it has none, whatever it is called by and whether its optional
layer is left aside. Every type of some kind has a text: it is put together from names.
-/
namespace RecordSchema

namespace TypeExpr
variable {t : TypeExpr} {ts : List TypeExpr} {e : WriteError}

theorem display_eq_error_iff : t.display = .error e ↔ t.inner = .error e := by
  cases t with
  | cls | noneObject | synonym | rest | parameter | forward | reference => simp [display, inner]
  | value v => exact map_eq_error_iff.trans Value.toText_eq_error_iff
  | _ => exact map_eq_error_iff

theorem innerAll_eq_mapM (ts : List TypeExpr) : innerAll ts = ts.mapM inner := by
  induction ts with
  | nil => rfl
  | cons t ts ih => rw [innerAll, List.mapM_cons, ih]

theorem innerAll_eq_error_iff : innerAll ts = .error e ↔ ∃ t ∈ ts, t.inner = .error e := by
  rw [innerAll_eq_mapM, mapM_eq_error_iff_exists]

theorem union_inner_eq_error_iff :
    (union ts).inner = .error e ↔ ∃ t ∈ ts, t.inner = .error e := by
  rw [← innerAll_eq_error_iff]
  exact map_eq_error_iff

theorem pipe_inner_eq_error_iff :
    (pipe ts).inner = .error e ↔ ∃ t ∈ ts, t.inner = .error e := by
  rw [← innerAll_eq_error_iff]
  exact map_eq_error_iff

/-- Of the members of a union, the class of absence always has a text. -/
theorem exists_inner_eq_error_iff {m : TypeExpr} (h : (ts.filter fun t => !t.isNoneType) = [m]) :
    (∃ t ∈ ts, t.inner = .error e) ↔ m.inner = .error e := by
  have hm : m ∈ ts := (List.mem_filter.mp (h ▸ List.mem_singleton_self m)).1
  refine ⟨fun ⟨t, ht, he⟩ => ?_, fun he => ⟨m, hm, he⟩⟩
  cases hn : t.isNoneType with
  | true =>
    cases t with
    | cls c => cases he
    | _ => cases hn
  | false =>
    have htm : t ∈ [m] := h ▸ List.mem_filter.mpr ⟨ht, by rw [hn]; rfl⟩
    cases List.mem_singleton.mp htm
    exact he

/-- An optional type has no text exactly if the type behind the optional layer has none. -/
theorem unwrapOptional_display_eq_error_iff :
    t.unwrapOptional.display = .error e ↔ t.display = .error e := by
  rw [display_eq_error_iff, display_eq_error_iff]
  cases t with
  | union ts =>
    rw [unwrapOptional]
    split
    next m h => rw [union_inner_eq_error_iff, exists_inner_eq_error_iff h]
    · rfl
  | pipe ts =>
    rw [unwrapOptional]
    split
    next m h => rw [pipe_inner_eq_error_iff, exists_inner_eq_error_iff h]
    · rfl
  | _ => rfl

/-- Brackets around text, or around text and the dots of repetition, can be written. -/
theorem generic_inner_of_isText (form : Container) (h : t.isText) (ht : ts = [] ∨ ts = [rest]) :
    ∃ s, (generic form (t :: ts)).inner = .ok s := by
  have hrest : ∃ texts, innerAll ts = .ok texts ∧ itemTexts ts = .ok texts := by
    rcases ht with rfl | rfl
    · exact ⟨_, rfl, rfl⟩
    · exact ⟨_, rfl, rfl⟩
  obtain ⟨texts, hi, hs⟩ := hrest
  rw [inner]
  cases t with
  | cls c => cases form.hinted <;> simp [innerAll, itemTexts, inner, hi, hs]
  | synonym n c target => cases form.hinted <;> simp [innerAll, itemTexts, inner, hi, hs]
  | _ => cases h

theorem inner_of_isTextSequence (h : t.isTextSequence) : ∃ s, t.inner = .ok s := by
  unfold isTextSequence at h
  split at h
  · split at h
    · exact generic_inner_of_isText _ h (.inl rfl)
    · exact generic_inner_of_isText _ h (.inl rfl)
    · exact generic_inner_of_isText _ h (.inr rfl)
    · cases h
  · cases h

theorem display_of_kind (h : t.kind?.isSome) : ∃ s, t.unwrapOptional.display = .ok s := by
  unfold kind? at h
  generalize t.unwrapOptional = u at h ⊢
  cases u with
  | cls c => exact ⟨_, rfl⟩
  | synonym n c target => exact ⟨_, rfl⟩
  | generic form args =>
    cases hs : (generic form args).isTextSequence with
    | true =>
      obtain ⟨s, hs⟩ := inner_of_isTextSequence hs
      exact ⟨_, congrArg (Except.map unmarked) hs⟩
    | false => simp [unwrapAlias, hs] at h
  | _ => cases h

/-- The type of a list whose argument is a number. It is of no kind, and its text is as long as the
number. -/
def numbered (n : Int) : TypeExpr := generic ⟨"list", .list, false, none⟩ [value (.int n)]

theorem numbered_display (n : Int) :
    (numbered n).display =
      (Text.whole n).map fun digits => unmarked ("list" ++ bracketed [digits]) := by
  cases h : Text.whole n <;>
    simp [numbered, display, inner, itemTexts, Value.functionName?, Value.shown, h, Except.map]

end TypeExpr

end RecordSchema
