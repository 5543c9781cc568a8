import Mathlib.Data.List.Perm.Basic
import RecordSchema.Proofs.Settings.Overrides
import RecordSchema.Proofs.Settings.Source

/-! # Entries and remarks

An entry of a settings table sets a value or is worth one remark, and never both, unless it is one
that the reading of the table stops at. A remark begins with the name of the table and depends on
that name in no other way.
-/
namespace RecordSchema.Settings
variable {t : Table} {source : String}

/-- The remark that an entry is worth on its own. -/
def entryRemark? (source : String) (e : String × Value) : Option Notice :=
  if Key.isKnown e.1 then
    if (usableText? e.2).isSome then none
    else e.2.shown.toOption.map fun shown => .warning (ignoredMessage source e.1 shown)
  else some (.warning (unknownMessage source e.1))

/-- The entry that a table has under a known key. -/
def underKey? (t : Table) (k : Key) : Option (String × Value) :=
  (t.get? k.name).map fun v => (k.name, v)

theorem Key.isKnown_iff {s : String} : Key.isKnown s ↔ ∃ k : Key, s = k.name := by
  rw [isKnown, Option.isSome_iff_exists]
  simp only [ofName?_eq_some_iff]

theorem Key.nodup_all : Key.all.Nodup := by decide

/-- What is under a key sets a value or is worth a remark. -/
theorem underKey?_cases (h : Tellable t) (source : String) (k : Key) :
    (underKey? t k = none ∧ setting? t k = none ∧ ignoredRemark? source t k = none) ∨
    (∃ v text, underKey? t k = some (k.name, v) ∧ usableText? v = some text ∧
      setting? t k = some text ∧ ignoredRemark? source t k = none) ∨
    (∃ v shown, underKey? t k = some (k.name, v) ∧ usableText? v = none ∧ v.shown = .ok shown ∧
      setting? t k = none ∧
      ignoredRemark? source t k = some (.warning (ignoredMessage source k.name shown))) := by
  unfold underKey? setting? ignoredRemark?
  cases ht : t.get? k.name with
  | none => exact .inl ⟨rfl, rfl, rfl⟩
  | some v =>
    cases hv : usableText? v with
    | some text => exact .inr (.inl ⟨v, text, rfl, hv, hv, by simp [hv]⟩)
    | none =>
      cases hs : v.shown with
      | error e => exact absurd ⟨v, ht, Value.shown_eq_error_iff.mp hs⟩ (h k)
      | ok shown =>
        exact .inr (.inr ⟨v, shown, rfl, hv, hs, hv,
          by simp [hv, hs, Option.filter_some, Except.toOption]⟩)

theorem underKey?_eq_some_iff (hn : t.keys.Nodup) {k : Key} {e : String × Value} :
    underKey? t k = some e ↔ e ∈ t ∧ e.1 = k.name := by
  rw [underKey?, Option.map_eq_some_iff]
  constructor
  · rintro ⟨v, hv, rfl⟩
    exact ⟨(Table.get?_eq_some_iff hn).mp hv, rfl⟩
  · rintro ⟨he, hk⟩
    exact ⟨e.2, (Table.get?_eq_some_iff hn).mpr (hk ▸ he), by rw [← hk]⟩

/-- Looking the known keys up one after the other finds the entries under them, each once. -/
theorem keyEntries_perm (hn : t.keys.Nodup) :
    (Key.all.filterMap (underKey? t)).Perm (t.filter fun e => Key.isKnown e.1) := by
  have ht : t.Nodup := List.Nodup.of_map Prod.fst hn
  have hk : (Key.all.filterMap (underKey? t)).Nodup := by
    refine Key.nodup_all.filterMap fun k k' e he he' => ?_
    have h := ((underKey?_eq_some_iff hn).mp he).2
    have h' := ((underKey?_eq_some_iff hn).mp he').2
    exact Key.name_inj.mp (h.symm.trans h')
  rw [List.perm_ext_iff_of_nodup hk (ht.filter _)]
  intro e
  simp only [List.mem_filterMap, underKey?_eq_some_iff hn, List.mem_filter, Key.isKnown_iff]
  constructor
  · rintro ⟨k, -, he, hk⟩
    exact ⟨he, k, hk⟩
  · rintro ⟨he, k, hk⟩
    exact ⟨k, Key.mem_all k, he, hk⟩

/-- Looked up under its key, an entry is worth the same remark. -/
theorem underKey?_bind_entryRemark? (h : Tellable t) (source : String) (k : Key) :
    (underKey? t k).bind (entryRemark? source) = ignoredRemark? source t k := by
  rcases underKey?_cases h source k with
    ⟨he, -, hr⟩ | ⟨v, text, he, hv, -, hr⟩ | ⟨v, shown, he, hv, hs, -, hr⟩
  · rw [he, hr]
    rfl
  · rw [he, hr, Option.bind_some, entryRemark?, if_pos (Key.isKnown_name k), hv]
    rfl
  · rw [he, hr, Option.bind_some, entryRemark?, if_pos (Key.isKnown_name k), hv, hs]
    rfl

theorem filterMap_unknown (source : String) (t : Table) :
    (t.filter fun e => !Key.isKnown e.1).filterMap (entryRemark? source) =
      unknownRemarks source t := by
  rw [unknownRemarks, ← List.filterMap_eq_map]
  refine List.filterMap_congr fun e he => ?_
  have hk : Key.isKnown e.1 = false := by simpa using (List.mem_filter.mp he).2
  rw [entryRemark?, hk]
  rfl

/-- Up to their order, the unknown entries and those under known keys are the table. -/
theorem entries_perm (hn : t.keys.Nodup) :
    ((t.filter fun e => !Key.isKnown e.1) ++ Key.all.filterMap (underKey? t)).Perm t := by
  have hp := List.filter_append_perm (fun e : String × Value => Key.isKnown e.1) t
  exact ((keyEntries_perm hn).append_left _).trans (List.perm_append_comm.trans hp)

/-- Up to their order, the remarks about a table are those of its entries. -/
theorem remarks_perm (hn : t.keys.Nodup) (h : Tellable t) (source : String) :
    (Source.remarks ⟨source, t⟩).Perm (t.filterMap (entryRemark? source)) := by
  have hr := (entries_perm hn).filterMap (entryRemark? source)
  have hk : (Key.all.filterMap (underKey? t)).filterMap (entryRemark? source) =
      Key.all.filterMap (ignoredRemark? source t) := by
    rw [List.filterMap_filterMap]
    exact List.filterMap_congr fun k _ => underKey?_bind_entryRemark? h source k
  rwa [List.filterMap_append, filterMap_unknown, hk] at hr

theorem length_keyEntries (h : Tellable t) (source : String) (ks : List Key) :
    (ks.filterMap (underKey? t)).length = (ks.filter fun k => (setting? t k).isSome).length +
      (ks.filterMap (ignoredRemark? source t)).length := by
  induction ks with
  | nil => rfl
  | cons k ks ih =>
    rcases underKey?_cases h source k with
      ⟨he, hs, hr⟩ | ⟨v, text, he, -, hs, hr⟩ | ⟨v, shown, he, -, -, hs, hr⟩
    · simp [he, hs, hr, ih]
    · simp [he, hs, hr, ih]
      omega
    · simp [he, hs, hr, ih]
      omega

/-- There are as many entries as values that are set and remarks. -/
theorem length_eq_add_remarks (hn : t.keys.Nodup) (h : Tellable t) (source : String) :
    t.length = (Key.all.filter fun k => (setting? t k).isSome).length +
      (Source.remarks ⟨source, t⟩).length := by
  have hl := (entries_perm hn).length_eq
  have hk := length_keyEntries h source Key.all
  have hr : (Source.remarks ⟨source, t⟩).length = (t.filter fun e => !Key.isKnown e.1).length +
      (Key.all.filterMap (ignoredRemark? source t)).length := by
    rw [Source.remarks, List.length_append, unknownRemarks, List.length_map]
  rw [List.length_append] at hl
  omega

/-- A remark begins with the name of the source, which it depends on in no other way. -/
theorem remarks_eq_map (source : String) (t : Table) :
    Source.remarks ⟨source, t⟩ =
      ((Source.remarks ⟨"", t⟩).map (·.message)).map fun m => .warning (source ++ m) := by
  have hu : ∀ key, unknownMessage source key = source ++ unknownMessage "" key := by
    intro key
    simp only [unknownMessage, String.append_assoc, String.empty_append]
  have hi : ∀ key shown, ignoredMessage source key shown =
      source ++ ignoredMessage "" key shown := by
    intro key shown
    simp only [ignoredMessage, String.append_assoc, String.empty_append]
  have hk : ∀ k, ignoredRemark? source t k = ((ignoredRemark? "" t k).map (·.message)).map fun m =>
      .warning (source ++ m) := by
    intro k
    simp only [ignoredRemark?, hi, Option.map_bind, Option.map_map, Function.comp_def]
    rfl
  simp only [Source.remarks, unknownRemarks, List.map_append, List.map_map, List.map_filterMap, hk,
    hu]
  rfl

end RecordSchema.Settings
