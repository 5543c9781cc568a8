import Mathlib.Data.List.Nodup
import RecordSchema.Proofs.Value.Text
import RecordSchema.Settings.Draft

/-! # Overrides

Overrides are a table in which every key stands once. Each known key that is not absent sets one
value of a draft and leaves the others alone, so their order is of no account. The first override
with an unknown key, or with a value that has no text, ends them.
-/
namespace RecordSchema
variable {t : Table}

theorem Table.get?_cons (key : String) (v : Value) (t : Table) (k : String) :
    Table.get? ((key, v) :: t) k = if key = k then some v else t.get? k := by
  by_cases hk : key = k <;> simp [Table.get?, hk]

/-- A table in which every key stands once is what its entries are. -/
theorem Table.get?_eq_some_iff (hn : t.keys.Nodup) {key : String} {v : Value} :
    t.get? key = some v ↔ (key, v) ∈ t := by
  induction t with
  | nil => simp [Table.get?]
  | cons e t ih =>
    obtain ⟨k, w⟩ := e
    obtain ⟨hk, hn⟩ := List.nodup_cons.mp hn
    rw [Table.get?_cons, List.mem_cons, Prod.mk.injEq]
    by_cases he : k = key
    · subst he
      have hm : (k, v) ∉ t := fun hm => hk (List.mem_map.mpr ⟨_, hm, rfl⟩)
      simp [hm, eq_comm]
    · simp [he, Ne.symm he, ih hn]

theorem Table.get?_eq_none {key : String} (h : key ∉ t.keys) : t.get? key = none := by
  rw [Table.get?, Option.map_eq_none_iff, List.find?_eq_none]
  intro e he hk
  exact h (List.mem_map.mpr ⟨e, he, beq_iff_eq.mp hk⟩)

theorem Table.mem_of_get? {key : String} {v : Value} (h : t.get? key = some v) : (key, v) ∈ t := by
  rw [Table.get?, Option.map_eq_some_iff] at h
  obtain ⟨entry, he, rfl⟩ := h
  have hk : (entry.1 == key) = true :=
    List.find?_some (p := fun e : String × Value => e.1 == key) he
  rw [← beq_iff_eq.mp hk]
  exact List.mem_of_find?_eq_some he

theorem Table.get?_perm {t' : Table} (hn : t.keys.Nodup) (h : t'.Perm t) (key : String) :
    t'.get? key = t.get? key := by
  have hn' : t'.keys.Nodup := (h.map Prod.fst).nodup_iff.mpr hn
  refine Option.ext fun v => ?_
  rw [Table.get?_eq_some_iff hn', Table.get?_eq_some_iff hn, h.mem_iff]

namespace Settings

/-- What an override that is not absent says about a key, if it has a text. -/
def override? (t : Table) (k : Key) : Option String :=
  match t.get? k.name with
  | none | some .null => none
  | some v => v.toText.toOption

/-- The error that an override ends with, if it does. -/
def overrideError? : String × Value → Option Error
  | (_, .null) => none
  | (key, v) =>
    if Key.isKnown key then
      match v.toText with
      | .ok _ => none
      | .error e => some (.unwritten e)
    else some (.unknownOverride key)

/-- Every override that is not absent has a known key and a text. -/
def Admissible (t : Table) : Prop :=
  ∀ entry ∈ t, entry.2 ≠ .null → Key.isKnown entry.1 ∧ entry.2.HasText

theorem override?_eq_some_iff {k : Key} {text : String} : override? t k = some text ↔
    ∃ v, t.get? k.name = some v ∧ v ≠ .null ∧ v.toText = .ok text := by
  have ht : ∀ v : Value, v.toText.toOption = some text ↔ v.toText = .ok text := by
    intro v
    cases v.toText <;> simp [Except.toOption]
  unfold override?
  cases t.get? k.name with
  | none => simp
  | some v => cases v <;> simp [ht]

theorem override?_eq_none_iff (h : Admissible t) {k : Key} :
    override? t k = none ↔ ∀ v, t.get? k.name = some v → v = .null := by
  constructor
  · intro ho v hv
    by_contra hne
    obtain ⟨text, ht⟩ :=
      Value.hasText_iff_toText.mp (h (k.name, v) (Table.mem_of_get? hv) hne).2
    cases ho.symm.trans (override?_eq_some_iff.mpr ⟨v, hv, hne, ht⟩)
  · intro ho
    rw [Option.eq_none_iff_forall_ne_some]
    intro text ht
    obtain ⟨v, hv, hne, -⟩ := override?_eq_some_iff.mp ht
    exact hne (ho v hv)

theorem overrideError?_null (key : String) : overrideError? (key, .null) = none := rfl

theorem overrideError?_of_ne (key : String) {v : Value} (hv : v ≠ .null) :
    overrideError? (key, v) =
      if Key.isKnown key then
        match v.toText with
        | .ok _ => none
        | .error e => some (.unwritten e)
      else some (.unknownOverride key) :=
  overrideError?.eq_2 key v (by simpa using hv)

theorem overrideError?_eq_none_iff {entry : String × Value} : overrideError? entry = none ↔
    (entry.2 ≠ .null → Key.isKnown entry.1 ∧ entry.2.HasText) := by
  obtain ⟨key, v⟩ := entry
  by_cases hv : v = .null
  · subst hv
    simp [overrideError?_null]
  · rw [overrideError?_of_ne _ hv, Value.hasText_iff_toText]
    cases Key.isKnown key with
    | false => simp [hv]
    | true => cases v.toText <;> simp [hv]

/-- An override that does not end in a configuration error has a known key and no text. -/
theorem overrideError?_eq_unwritten_iff {entry : String × Value} {e : WriteError} :
    overrideError? entry = some (.unwritten e) ↔
      Key.isKnown entry.1 ∧ entry.2.HoldsLong := by
  obtain ⟨key, v⟩ := entry
  by_cases hv : v = .null
  · subst hv
    rw [overrideError?_null]
    exact ⟨nofun, fun h => nomatch h.2⟩
  · rw [overrideError?_of_ne _ hv, ← Value.shown_eq_error_iff (e := e), ← Value.toText_eq_error_iff]
    cases Key.isKnown key with
    | false => simp
    | true => cases v.toText <;> simp

theorem overrideError?_cases {entry : String × Value} {e : Error}
    (h : overrideError? entry = some e) :
    (∃ cause, e = .unwritten cause) ∨ e = .unknownOverride entry.1 := by
  obtain ⟨key, v⟩ := entry
  by_cases hv : v = .null
  · subst hv
    cases h
  · rw [overrideError?_of_ne _ hv] at h
    split at h
    · split at h
      · cases h
      · exact .inl ⟨_, (Option.some.inj h).symm⟩
    · exact .inr (Option.some.inj h).symm

theorem Key.ofName?_eq_some_iff {s : String} {k : Key} : Key.ofName? s = some k ↔ s = k.name := by
  constructor
  · intro h
    have hb : (k.name == s) = true := List.find?_some (p := fun k : Key => k.name == s) h
    exact (beq_iff_eq.mp hb).symm
  · rintro rfl
    exact Key.ofName?_name k

theorem Key.isKnown_name (k : Key) : Key.isKnown k.name := by
  rw [isKnown, ofName?_name]
  rfl

theorem Key.name_inj {k k' : Key} : k.name = k'.name ↔ k = k' := by
  refine ⟨fun h => ?_, congrArg name⟩
  have hk := ofName?_name k
  rw [h, ofName?_name] at hk
  exact (Option.some.inj hk).symm

theorem override?_of_not_mem {k : Key} (h : k.name ∉ t.keys) : override? t k = none := by
  rw [override?, Table.get?_eq_none h]

theorem override?_perm {t' : Table} (hn : t.keys.Nodup) (h : t'.Perm t) (k : Key) :
    override? t' k = override? t k := by
  rw [override?, Table.get?_perm hn h, override?]

theorem override?_cons_of_ne {key : String} {k : Key} (h : key ≠ k.name) (v : Value) (t : Table) :
    override? ((key, v) :: t) k = override? t k := by
  rw [override?, Table.get?_cons, if_neg h, override?]

theorem override?_cons_null {key : String} (hm : key ∉ t.keys) (k : Key) :
    override? ((key, .null) :: t) k = override? t k := by
  by_cases h : key = k.name
  · subst h
    rw [override?_of_not_mem hm, override?, Table.get?_cons, if_pos rfl]
  · exact override?_cons_of_ne h .null t

theorem override?_cons_self (k : Key) {v : Value} {text : String} (hv : v ≠ .null)
    (ht : v.toText = .ok text) (t : Table) : override? ((k.name, v) :: t) k = some text := by
  rw [override?_eq_some_iff, Table.get?_cons, if_pos rfl]
  exact ⟨v, rfl, hv, ht⟩

theorem admissible_cons {entry : String × Value} : Admissible (entry :: t) ↔
    (entry.2 ≠ .null → Key.isKnown entry.1 ∧ entry.2.HasText) ∧ Admissible t :=
  List.forall_mem_cons

namespace Draft

@[simp] theorem get_set (d : Draft) (k k' : Key) (v : Option String) :
    (d.set k v).get k' = if k = k' then v else d.get k' := by
  cases k <;> cases k' <;> rfl

@[simp] theorem set_sources (d : Draft) (k : Key) (v : Option String) :
    (d.set k v).sources = d.sources := by
  cases k <;> rfl

@[simp] theorem set_notices (d : Draft) (k : Key) (v : Option String) :
    (d.set k v).notices = d.notices := by
  cases k <;> rfl

/-- What one override does to a draft. -/
theorem override_cons (d : Draft) (key : String) (v : Value) (t : Table) :
    (v = .null ∧ d.override ((key, v) :: t) = d.override t) ∨
    (∃ e, overrideError? (key, v) = some e ∧ d.override ((key, v) :: t) = (d, some e)) ∨
    (∃ (k : Key) (text : String), v ≠ .null ∧ key = k.name ∧ v.toText = .ok text ∧
      overrideError? (key, v) = none ∧
      d.override ((key, v) :: t) = (d.set k (some text)).override t) := by
  by_cases hv : v = .null
  · subst hv
    exact .inl ⟨rfl, rfl⟩
  · have ho := override.eq_3 d key v t (by simpa using hv)
    have he := overrideError?_of_ne key hv
    cases hk : Key.ofName? key with
    | none =>
      rw [Key.isKnown, hk] at he
      rw [hk] at ho
      exact .inr (.inl ⟨_, he, ho⟩)
    | some k =>
      rw [Key.isKnown, hk] at he
      rw [hk] at ho
      cases ht : v.toText with
      | error e =>
        rw [ht] at he ho
        exact .inr (.inl ⟨_, he, ho⟩)
      | ok text =>
        rw [ht] at he ho
        exact .inr (.inr ⟨k, text, hv, Key.ofName?_eq_some_iff.mp hk, rfl, he, ho⟩)

/-- Overrides end as the first of them does that ends in an error. -/
theorem override_error (d : Draft) (t : Table) :
    (d.override t).2 = t.findSome? overrideError? := by
  induction t generalizing d with
  | nil => rfl
  | cons entry t ih =>
    obtain ⟨key, v⟩ := entry
    rw [List.findSome?_cons]
    rcases override_cons d key v t with ⟨rfl, ho⟩ | ⟨e, he, ho⟩ | ⟨k, text, -, -, -, he, ho⟩
    · rw [overrideError?_null, ho, ih]
    · rw [he, ho]
    · rw [he, ho, ih]

theorem override_eq_none_iff (d : Draft) (t : Table) :
    (d.override t).2 = none ↔ Admissible t := by
  rw [override_error, List.findSome?_eq_none_iff]
  exact forall₂_congr fun entry _ => overrideError?_eq_none_iff

theorem override_sources (d : Draft) (t : Table) : (d.override t).1.sources = d.sources := by
  induction t generalizing d with
  | nil => rfl
  | cons entry t ih =>
    obtain ⟨key, v⟩ := entry
    rcases override_cons d key v t with ⟨-, ho⟩ | ⟨e, -, ho⟩ | ⟨k, text, -, -, -, -, ho⟩ <;>
      simp [ho, ih]

theorem override_notices (d : Draft) (t : Table) : (d.override t).1.notices = d.notices := by
  induction t generalizing d with
  | nil => rfl
  | cons entry t ih =>
    obtain ⟨key, v⟩ := entry
    rcases override_cons d key v t with ⟨-, ho⟩ | ⟨e, -, ho⟩ | ⟨k, text, -, -, -, -, ho⟩ <;>
      simp [ho, ih]

/-- Every key has its override, or else what it had. -/
theorem override_get (d : Draft) (hn : t.keys.Nodup) (h : Admissible t) (k : Key) :
    (d.override t).1.get k = (override? t k).or (d.get k) := by
  induction t generalizing d with
  | nil => rfl
  | cons entry t ih =>
    obtain ⟨key, v⟩ := entry
    obtain ⟨hm, hn⟩ := List.nodup_cons.mp hn
    have ih := fun d => ih d hn (admissible_cons.mp h).2
    rcases override_cons d key v t with ⟨rfl, ho⟩ | ⟨e, he, -⟩ | ⟨k', text, hv, rfl, ht, -, ho⟩
    · rw [ho, ih, override?_cons_null hm]
    · cases (overrideError?_eq_none_iff.mpr (admissible_cons.mp h).1).symm.trans he
    · rw [ho, ih, get_set]
      by_cases hk : k' = k
      · subst hk
        rw [override?_of_not_mem hm, override?_cons_self k' hv ht, if_pos rfl]
        rfl
      · rw [override?_cons_of_ne (Key.name_inj.not.mpr hk), if_neg hk]

end Draft

end Settings

end RecordSchema
