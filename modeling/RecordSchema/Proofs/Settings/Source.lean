import Mathlib.Data.List.Basic
import RecordSchema.Proofs.Value.Text
import RecordSchema.Settings.Draft

/-! # What one settings table says

A table sets a key to the text it has there, if something is left of it without the blanks at its
ends. Everything else in the table is worth one remark: first the unknown keys in the order of the
table, then the known ones without a usable text in the order of the keys. Such a remark shows the
value, and a value that cannot be shown stops the reading of the table.
-/
namespace RecordSchema.Settings
variable {ε : Type} {t : Table} {k : Key} {e : Error}

/-- A settings table and the name it goes by in remarks. -/
structure Source where
  name : String
  table : Table

/-- The text that a table sets a key to. -/
def setting? (t : Table) (k : Key) : Option String := (t.get? k.name).bind usableText?

def unknownRemarks (source : String) (t : Table) : List Notice :=
  (t.filter fun e => !Key.isKnown e.1).map fun e => .warning (unknownMessage source e.1)

/-- The remark about a value that cannot be used, if it can be shown. -/
def ignoredRemark? (source : String) (t : Table) (k : Key) : Option Notice :=
  ((t.get? k.name).filter fun v => (usableText? v).isNone).bind fun v =>
    v.shown.toOption.map fun shown => .warning (ignoredMessage source k.name shown)

/-- What a table has under a key can neither be used nor be shown. -/
def Untold (t : Table) (k : Key) : Prop := ∃ v, t.get? k.name = some v ∧ v.HoldsLong

/-- Whatever cannot be used in a table can be shown. -/
def Tellable (t : Table) : Prop := ∀ k, ¬ Untold t k

def Source.setting? (l : Source) (k : Key) : Option String := Settings.setting? l.table k

def Source.remarks (l : Source) : List Notice :=
  unknownRemarks l.name l.table ++ Key.all.filterMap (ignoredRemark? l.name l.table)

theorem usableText?_eq_some_iff {v : Value} {text : String} : usableText? v = some text ↔
    ∃ s, v = .text s ∧ Text.strip s ≠ "" ∧ text = Text.strip s := by
  constructor
  · intro h
    cases v with
    | text s =>
      rw [usableText?] at h
      obtain ⟨hs, h⟩ := Option.ite_none_left_eq_some.mp h
      exact ⟨s, rfl, hs, (Option.some.inj h).symm⟩
    | _ => cases h
  · rintro ⟨s, rfl, hs, rfl⟩
    rw [usableText?, if_neg hs]

theorem setting?_eq_some_iff {text : String} : setting? t k = some text ↔
    ∃ s, t.get? k.name = some (.text s) ∧ Text.strip s ≠ "" ∧ text = Text.strip s := by
  simp only [setting?, Option.bind_eq_some_iff, usableText?_eq_some_iff]
  constructor
  · rintro ⟨_, hv, s, rfl, h⟩
    exact ⟨s, hv, h⟩
  · rintro ⟨s, hv, h⟩
    exact ⟨_, hv, s, rfl, h⟩

theorem setting?_eq_none_iff : setting? t k = none ↔
    ∀ s, t.get? k.name = some (.text s) → Text.strip s = "" := by
  rw [Option.eq_none_iff_forall_ne_some]
  simp only [ne_eq, setting?_eq_some_iff, not_exists, not_and]
  constructor
  · intro h s hs
    by_contra hne
    exact h _ s hs hne rfl
  · intro h _ s hs hne
    exact absurd (h s hs) hne

theorem warn_result (ns : List Notice) (m : String) :
    (warn ns m : Logged ε (List Notice)).result = .ok (ns ++ [.warning m]) := rfl

theorem warnUnknown_result (source : String) (ns : List Notice) (t : Table) :
    (warnUnknown source ns t : Logged ε (List Notice)).result =
      .ok (ns ++ unknownRemarks source t) := by
  induction t generalizing ns with
  | nil => simp [warnUnknown, unknownRemarks]
  | cons e t ih =>
    obtain ⟨k, v⟩ := e
    simp only [warnUnknown]
    cases hk : Key.isKnown k with
    | true =>
      rw [if_pos rfl, ih]
      simp [unknownRemarks, hk]
    | false =>
      rw [if_neg (by decide), Logged.result_bind, warn_result, ok_bind, ih]
      simp [unknownRemarks, hk]

theorem usableText?_of_holdsLong {v : Value} (h : v.HoldsLong) : usableText? v = none := by
  cases h <;> rfl

theorem tellable_of_hasText (h : ∀ entry ∈ t, entry.2.HasText) : Tellable t := by
  rintro k ⟨v, hv, hl⟩
  rw [Table.get?, Option.map_eq_some_iff] at hv
  obtain ⟨entry, he, rfl⟩ := hv
  exact Value.not_hasText_iff.mpr hl (h entry (List.mem_of_find?_eq_some he))

theorem textAt_result (h : ¬ Untold t k) (source : String) (ns : List Notice) :
    (textAt t k.name source ns).result =
      .ok (setting? t k, ns ++ (ignoredRemark? source t k).toList) := by
  unfold textAt setting? ignoredRemark?
  cases ht : t.get? k.name with
  | none => simp
  | some v =>
    cases hv : usableText? v with
    | some s => simp [hv]
    | none =>
      cases hs : v.shown with
      | error e => exact absurd ⟨v, ht, Value.shown_eq_error_iff.mp hs⟩ h
      | ok shown =>
        simp [hv, hs, warn_result, Option.filter_some, Except.mapError, Except.toOption]

theorem textAt_of_untold (h : Untold t k) (source : String) (ns : List Notice) :
    (textAt t k.name source ns).result = .error (.unwritten .tooManyDigits) := by
  obtain ⟨v, ht, hl⟩ := h
  rw [textAt, ht]
  simp only [usableText?_of_holdsLong hl, hl.shown_eq]
  rfl

namespace Draft

theorem readKeys_cons (h : ¬ Untold t k) (source : String) (d : Draft) (ks : List Key) :
    (readKeys t source d (k :: ks)).result =
      (readKeys t source { d.set k (setting? t k) with
        notices := d.notices ++ (ignoredRemark? source t k).toList } ks).result := by
  rw [readKeys, Logged.result_bind, textAt_result h]
  rfl

theorem readKeys_of_untold {ks : List Key} (hk : k ∈ ks) (h : Untold t k) (source : String)
    (d : Draft) : (readKeys t source d ks).result = .error (.unwritten .tooManyDigits) := by
  induction ks generalizing d with
  | nil => cases hk
  | cons k' ks ih =>
    by_cases hu : Untold t k'
    · rw [readKeys, Logged.result_bind, textAt_of_untold hu]
      rfl
    · rw [readKeys_cons hu]
      rcases List.mem_cons.mp hk with rfl | hk
      · exact absurd h hu
      · exact ih hk _

/-- A table sets what it can set and is worth its remarks. -/
theorem ofTable_result (h : Tellable t) (source : String) :
    (ofTable t source).result =
      .ok ⟨setting? t .record, setting? t .tagKey, setting? t .outputType, setting? t .inputType,
        [source], Source.remarks ⟨source, t⟩⟩ := by
  have hk : Key.all.filterMap (ignoredRemark? source t) =
      (ignoredRemark? source t .record).toList ++ (ignoredRemark? source t .tagKey).toList ++
        (ignoredRemark? source t .outputType).toList ++
          (ignoredRemark? source t .inputType).toList := by
    simp only [List.filterMap_eq_flatMap_toList, Key.all, List.flatMap_cons, List.flatMap_nil,
      List.append_nil, List.append_assoc]
  rw [ofTable, Logged.result_bind, warnUnknown_result, ok_bind, Source.remarks, hk, Key.all,
    readKeys_cons (h _), readKeys_cons (h _), readKeys_cons (h _), readKeys_cons (h _)]
  simp only [set, readKeys, Logged.result_pure, List.append_assoc, List.nil_append]

/-- A table cannot be read exactly if it has a value that can neither be used nor be shown. -/
theorem ofTable_eq_error_iff {source : String} : (ofTable t source).result = .error e ↔
    e = .unwritten .tooManyDigits ∧ ∃ k, Untold t k := by
  by_cases h : Tellable t
  · rw [ofTable_result h]
    have hk : ¬ ∃ k, Untold t k := not_exists.mpr h
    simp [hk]
  · simp only [Tellable, Classical.not_forall, not_not] at h
    obtain ⟨k, hk⟩ := h
    rw [ofTable, Logged.result_bind, warnUnknown_result, ok_bind,
      readKeys_of_untold (Key.mem_all k) hk]
    simp [eq_comm, show ∃ k, Untold t k from ⟨k, hk⟩]

end Draft

end RecordSchema.Settings
