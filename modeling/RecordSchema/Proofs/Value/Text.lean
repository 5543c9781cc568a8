import RecordSchema.Proofs.Traversal
import RecordSchema.Value

/-! # Which values have a text

A value has a text unless some whole number in it has too many digits. Whether a value is shown in a
message or written out as it is makes no difference.
-/
namespace RecordSchema.Value
variable {v : Value} {vs : List Value} {es : List (String × Value)} {e : WriteError}

/-- There is a text that shows the value. -/
def HasText (v : Value) : Prop := ∃ s, v.shown = .ok s

instance (v : Value) : Decidable v.HasText :=
  decidable_of_iff (v.shown.isOk = true) (by
    rw [HasText]
    cases v.shown <;> simp [Except.isOk, Except.toBool])

/-- A value with a whole number in it that is too long, or an object that is known to hold one. -/
inductive HoldsLong : Value → Prop
  | int {n : Int} (h : Text.isTooLong n = true) : HoldsLong (.int n)
  | unwritten (className : String) : HoldsLong (.unwritten className)
  | list {items : List Value} {v : Value} (hm : v ∈ items) (h : HoldsLong v) :
      HoldsLong (.list items)
  | tuple {items : List Value} {v : Value} (hm : v ∈ items) (h : HoldsLong v) :
      HoldsLong (.tuple items)
  | table {entries : List (String × Value)} {entry : String × Value} (hm : entry ∈ entries)
      (h : HoldsLong entry.2) : HoldsLong (.table entries)
  | mapping {entries : List (String × Value)} {entry : String × Value} (hm : entry ∈ entries)
      (h : HoldsLong entry.2) : HoldsLong (.mapping entries)

instance : Subsingleton WriteError := ⟨fun .tooManyDigits .tooManyDigits => rfl⟩

theorem shownItems_eq_mapM (vs : List Value) : shownItems vs = vs.mapM shown := by
  induction vs with
  | nil => rfl
  | cons v vs ih => rw [shownItems, List.mapM_cons, ih]

theorem shownEntries_eq_mapM (es : List (String × Value)) :
    shownEntries es =
      es.mapM fun entry => entry.2.shown.map fun s => Text.quoted entry.1 ++ ": " ++ s := by
  induction es with
  | nil => rfl
  | cons entry es ih =>
    rw [shownEntries, List.mapM_cons, ih]
    cases entry.2.shown <;> rfl

theorem shownItems_eq_error_iff : shownItems vs = .error e ↔ ∃ v ∈ vs, v.shown = .error e := by
  rw [shownItems_eq_mapM, mapM_eq_error_iff_exists]

theorem shownEntries_eq_error_iff :
    shownEntries es = .error e ↔ ∃ entry ∈ es, entry.2.shown = .error e := by
  simp only [shownEntries_eq_mapM, mapM_eq_error_iff_exists, map_eq_error_iff]

theorem list_shown_eq_error_iff : (list vs).shown = .error e ↔ ∃ v ∈ vs, v.shown = .error e := by
  rw [← shownItems_eq_error_iff]
  exact map_eq_error_iff

theorem tuple_shown_eq_error_iff : (tuple vs).shown = .error e ↔ ∃ v ∈ vs, v.shown = .error e := by
  rw [← shownItems_eq_error_iff]
  exact map_eq_error_iff

theorem table_shown_eq_error_iff :
    (table es).shown = .error e ↔ ∃ entry ∈ es, entry.2.shown = .error e := by
  rw [← shownEntries_eq_error_iff]
  exact map_eq_error_iff

theorem mapping_shown_eq_error_iff :
    (mapping es).shown = .error e ↔ ∃ entry ∈ es, entry.2.shown = .error e := by
  rw [← shownEntries_eq_error_iff]
  exact map_eq_error_iff

theorem holdsLong_of_shown (v : Value) (h : v.shown = .error e) : v.HoldsLong := by
  cases v with
  | int n =>
    cases hn : Text.isTooLong n with
    | true => exact .int hn
    | false => cases (Text.whole_of_short hn).symm.trans h
  | unwritten className => exact .unwritten className
  | list vs =>
    obtain ⟨v, hm, hv⟩ := list_shown_eq_error_iff.mp h
    exact .list hm (holdsLong_of_shown v hv)
  | tuple vs =>
    obtain ⟨v, hm, hv⟩ := tuple_shown_eq_error_iff.mp h
    exact .tuple hm (holdsLong_of_shown v hv)
  | table es =>
    obtain ⟨⟨key, v⟩, hm, hv⟩ := table_shown_eq_error_iff.mp h
    exact .table hm (holdsLong_of_shown v hv)
  | mapping es =>
    obtain ⟨⟨key, v⟩, hm, hv⟩ := mapping_shown_eq_error_iff.mp h
    exact .mapping hm (holdsLong_of_shown v hv)
  | _ => cases h
termination_by sizeOf v
decreasing_by
  all_goals
    subst_vars
    have hs := List.sizeOf_lt_of_mem hm
    simp at hs ⊢
    omega

theorem HoldsLong.shown_eq (h : v.HoldsLong) : v.shown = .error .tooManyDigits := by
  induction h with
  | int hn => exact Text.whole_of_long hn
  | unwritten className => rfl
  | list hm _ ih => exact list_shown_eq_error_iff.mpr ⟨_, hm, ih⟩
  | tuple hm _ ih => exact tuple_shown_eq_error_iff.mpr ⟨_, hm, ih⟩
  | table hm _ ih => exact table_shown_eq_error_iff.mpr ⟨_, hm, ih⟩
  | mapping hm _ ih => exact mapping_shown_eq_error_iff.mpr ⟨_, hm, ih⟩

theorem shown_eq_error_iff : v.shown = .error e ↔ v.HoldsLong := by
  refine ⟨holdsLong_of_shown v, fun h => ?_⟩
  cases e
  exact h.shown_eq

theorem not_hasText_iff : ¬ v.HasText ↔ v.HoldsLong := by
  rw [← shown_eq_error_iff (e := .tooManyDigits), HasText]
  cases v.shown with
  | ok s => simp
  | error e => cases e; simp

theorem toText_eq_error_iff : v.toText = .error e ↔ v.shown = .error e := by
  cases v with
  | mapping entries =>
    simp only [toText, shown]
    cases shownEntries entries <;> simp
  | _ => simp [toText, shown]

/-- A value that can be shown can also be written out. -/
theorem hasText_iff_toText : v.HasText ↔ ∃ text, v.toText = .ok text := by
  have h : ∀ e, v.toText = .error e ↔ v.shown = .error e := fun e => toText_eq_error_iff
  rw [HasText]
  cases ht : v.toText with
  | error e => simp [(h e).mp ht]
  | ok text =>
    cases hs : v.shown with
    | ok s => simp
    | error e => cases ht.symm.trans ((h e).mpr hs)

end RecordSchema.Value
