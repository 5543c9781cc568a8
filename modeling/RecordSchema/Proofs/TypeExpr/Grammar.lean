import RecordSchema.Proofs.Record.Walk
import RecordSchema.Proofs.TypeExpr.Optional
import RecordSchema.TypeExpr.Names

/-! # The grammar of field types

Which types a field can have is said here by rules alone: what an optional layer leaves, what stands
behind aliases, and the forms that each kind has. The classification of a type is what these rules
say of it.
-/
namespace RecordSchema.TypeExpr

/-- A member of a union all of whose other members are the class of absence. -/
def LoneMember (ts : List TypeExpr) (u : TypeExpr) : Prop :=
  ∃ before after, ts = before ++ u :: after ∧ u ≠ noneType ∧ ∀ m ∈ before ++ after, m = noneType

/-- What is left of a type without its optional layer. -/
inductive Present : TypeExpr → TypeExpr → Prop
  | member {t u : TypeExpr} (ht : t.isUnion = true) (hm : LoneMember t.members u) : Present t u
  | whole {t : TypeExpr} (h : t.isUnion = false ∨ ∀ u, ¬ LoneMember t.members u) : Present t t

/-- A type, or an alias of one that stands for it. -/
inductive StandsFor : TypeExpr → TypeExpr → Prop
  | self {t : TypeExpr} : StandsFor t t
  | named {t r : TypeExpr} {n : Nat} {c : ClassName} (h : StandsFor t r) :
    StandsFor (synonym n c t) r

def isAlias : TypeExpr → Bool
  | synonym .. => true
  | _ => false

/-- Behind all of its aliases, a type is another one. -/
def Unaliased (t r : TypeExpr) : Prop := StandsFor t r ∧ r.isAlias = false

/-- The forms of the types of each kind. -/
inductive HasForm : Kind → TypeExpr → Prop
  | boolean : HasForm .boolean boolType
  | int : HasForm .int intType
  | string : HasForm .string textType
  | duration : HasForm .duration durationType
  | list {f : Container} {s : TypeExpr} (hf : f.family = .list ∨ f.family = .sequence)
    (hs : StandsFor s textType) : HasForm .stringList (generic f [s])
  | tuple {f : Container} {s : TypeExpr} (hf : f.family = .tuple) (hs : StandsFor s textType) :
    HasForm .stringList (generic f [s, rest])

variable {t u r s w : TypeExpr} {ts : List TypeExpr} {c : ClassName} {k : Kind}

theorem isClass_iff : t.isClass c = true ↔ t = cls c := by
  cases t with
  | cls d =>
    rw [cls.injEq, eq_comm (a := d)]
    exact beq_iff_eq
  | _ => simp [isClass]

/-! ## Optional layers -/

theorem filter_eq_singleton_iff :
    ts.filter (fun m => !m.isNoneType) = [u] ↔ LoneMember ts u := by
  have hn : ∀ m : TypeExpr, ¬ (!m.isNoneType) = true ↔ m = noneType := by
    intro m
    have hm : m.isNoneType = true ↔ m = noneType := isClass_iff
    simp [hm]
  simp only [List.filter_eq_cons_iff, List.filter_eq_nil_iff, hn, LoneMember, List.mem_append]
  constructor
  · rintro ⟨before, after, rfl, hb, hu, ha⟩
    refine ⟨before, after, rfl, fun h => (hn u).mpr h hu, ?_⟩
    rintro m (hm | hm)
    · exact hb m hm
    · exact ha m hm
  · rintro ⟨before, after, rfl, hu, ha⟩
    refine ⟨before, after, rfl, fun m hm => ha m (.inl hm), ?_, fun m hm => ha m (.inr hm)⟩
    exact not_not.mp fun h => hu ((hn u).mp h)

theorem unwrapOptional_of_union (h : t.isUnion = true) :
    t.unwrapOptional = match t.members.filter fun m => !m.isNoneType with
      | [m] => m
      | _ => t := by
  cases t <;> first | rfl | cases h

theorem present_iff : Present t u ↔ t.unwrapOptional = u := by
  constructor
  · rintro (⟨ht, hm⟩ | ht | hm)
    · rw [unwrapOptional_of_union ht, filter_eq_singleton_iff.mpr hm]
    · exact unwrapOptional_of_single ht
    · cases hu : t.isUnion with
      | false => exact unwrapOptional_of_single hu
      | true =>
        rw [unwrapOptional_of_union hu]
        split
        · next m hf => exact absurd (filter_eq_singleton_iff.mp hf) (hm m)
        · rfl
  · rintro rfl
    cases hu : t.isUnion with
    | false =>
      rw [unwrapOptional_of_single hu]
      exact .whole (.inl hu)
    | true =>
      rw [unwrapOptional_of_union hu]
      split
      · next m hf => exact .member hu (filter_eq_singleton_iff.mp hf)
      · next hf => exact .whole (.inr fun m hm => hf m (filter_eq_singleton_iff.mpr hm))

/-! ## Aliases -/

theorem StandsFor.unwrapAlias_eq (h : StandsFor w t) : w.unwrapAlias = t.unwrapAlias := by
  induction h with
  | self => rfl
  | named _ ih => rw [unwrapAlias, ih]

theorem StandsFor.isUnion_eq (h : StandsFor w t) (ht : t.isUnion = false) : w.isUnion = false := by
  cases h with
  | self => exact ht
  | named _ => rfl

theorem unwrapAlias_of_bare (h : r.isAlias = false) : r.unwrapAlias = r := by
  cases r <;> first | rfl | cases h

theorem unaliased_unwrapAlias (t : TypeExpr) : Unaliased t t.unwrapAlias := by
  fun_induction unwrapAlias t with
  | case1 n c target ih => exact ⟨.named ih.1, ih.2⟩
  | case2 t ht =>
    refine ⟨.self, ?_⟩
    cases t <;> first | rfl | exact absurd rfl (ht _ _ _)

theorem unaliased_iff : Unaliased t r ↔ t.unwrapAlias = r := by
  constructor
  · rintro ⟨hs, hr⟩
    rw [hs.unwrapAlias_eq, unwrapAlias_of_bare hr]
  · rintro rfl
    exact unaliased_unwrapAlias t

theorem isText_iff : s.isText = true ↔ StandsFor s textType := by
  have hc : s.isText = true ↔ s.unwrapAlias = textType := isClass_iff
  rw [hc, ← unaliased_iff]
  exact and_iff_left rfl

/-! ## Forms -/

theorem isTextSequence_iff : r.isTextSequence = true ↔ HasForm .stringList r := by
  constructor
  · intro h
    unfold isTextSequence at h
    split at h
    · split at h
      · next hf => exact .list (.inl hf) (isText_iff.mp h)
      · next hf => exact .list (.inr hf) (isText_iff.mp h)
      · next hf => exact .tuple hf (isText_iff.mp h)
      · cases h
    · cases h
  · intro h
    cases h with
    | list hf hs =>
      obtain hf | hf := hf
      · simp [isTextSequence, hf, isText_iff.mpr hs]
      · simp [isTextSequence, hf, isText_iff.mpr hs]
    | tuple hf hs => simp [isTextSequence, hf, isText_iff.mpr hs]

theorem kind?_eq_some_iff : t.kind? = some k ↔ HasForm k t.unwrapOptional.unwrapAlias := by
  unfold kind?
  generalize t.unwrapOptional.unwrapAlias = r
  constructor
  · intro h
    split at h
    · cases h; exact .boolean
    · cases h; exact .int
    · cases h; exact .string
    · cases h; exact .duration
    · split at h
      · next hs => cases h; exact isTextSequence_iff.mp hs
      · cases h
  · intro h
    cases h with
    | boolean => rfl
    | int => rfl
    | string => rfl
    | duration => rfl
    | list hf hs =>
      have ht := isTextSequence_iff.mpr (.list hf hs)
      simp [ht]
    | tuple hf hs =>
      have ht := isTextSequence_iff.mpr (.tuple hf hs)
      simp [ht]

theorem kind?_eq_none_iff : t.kind? = none ↔ ∀ k, ¬ HasForm k t.unwrapOptional.unwrapAlias := by
  simp only [← kind?_eq_some_iff]
  exact Option.eq_none_iff_forall_ne_some

/-- A kind belongs to every alias of a type that has it. -/
theorem StandsFor.kind?_eq (h : StandsFor w t) (ht : t.isUnion = false) (hk : t.kind? = some k) :
    w.kind? = some k := by
  have hw : w.isUnion = false := h.isUnion_eq ht
  rw [kind?_eq_some_iff] at hk ⊢
  rw [unwrapOptional_of_single ht] at hk
  rwa [unwrapOptional_of_single hw, h.unwrapAlias_eq]

theorem Present.kind?_eq (h : Present t u) (hu : u.isUnion = false) (hk : u.kind? = some k) :
    t.kind? = some k := by
  rw [kind?_eq_some_iff] at hk ⊢
  rwa [present_iff.mp h, ← unwrapOptional_of_single hu]

/-! ## Classification -/

theorem kindOf_eq_some_iff : (kindOf t).result = .ok (some k) ↔ t.kind? = some k := by
  refine ⟨fun h => ?_, kindOf_of_kind⟩
  cases hk : t.kind? with
  | some k' =>
    rw [kindOf_of_kind hk] at h
    exact Except.ok.inj h
  | none =>
    cases hd : t.display with
    | ok name => cases (kindOf_of_text hk hd).symm.trans h
    | error e => cases (kindOf_of_no_text hk hd).symm.trans h

theorem kindOf_eq_none_iff :
    (kindOf t).result = .ok none ↔ t.kind? = none ∧ ∃ name, t.display = .ok name := by
  refine ⟨fun h => ?_, fun ⟨hk, name, hd⟩ => kindOf_of_text hk hd⟩
  cases hk : t.kind? with
  | some k => cases (kindOf_of_kind hk).symm.trans h
  | none =>
    cases hd : t.display with
    | ok name => exact ⟨rfl, name, rfl⟩
    | error e => cases (kindOf_of_no_text hk hd).symm.trans h

theorem kindOf_eq_error_iff {e : SchemaError} : (kindOf t).result = .error e ↔
    t.kind? = none ∧ ∃ cause, t.display = .error cause ∧ e = .unwritten cause := by
  refine ⟨fun h => ?_, ?_⟩
  · cases hk : t.kind? with
    | some k => cases (kindOf_of_kind hk).symm.trans h
    | none =>
      cases hd : t.display with
      | ok name => cases (kindOf_of_text hk hd).symm.trans h
      | error cause =>
        cases (kindOf_of_no_text hk hd).symm.trans h
        exact ⟨rfl, cause, rfl, rfl⟩
  · rintro ⟨hk, cause, hd, rfl⟩
    exact kindOf_of_no_text hk hd

/-- A type is classified by its form alone, once its optional layer and then its aliases are taken
off, except that a type of no kind must have a text. Aliases of a type that is no union, and their
optional forms, are of the kind of that type. -/
theorem kindOf_iff_hasForm (t : TypeExpr) :
    (∃! u, Present t u) ∧ (∀ u, ∃! r, Unaliased u r) ∧
    (∀ u r, Present t u → Unaliased u r →
      (∀ k, (kindOf t).result = .ok (some k) ↔ HasForm k r) ∧
      ((kindOf t).result = .ok none ↔ (∀ k, ¬ HasForm k r) ∧ ∃ name, t.display = .ok name) ∧
      ∀ e, (kindOf t).result = .error e ↔
        (∀ k, ¬ HasForm k r) ∧ ∃ cause, t.display = .error cause ∧ e = .unwritten cause) ∧
    (∀ entry ∈ containers,
      (entry.2.family = .list ↔ entry.1 ∈ ["list", "typing.List"]) ∧
      (entry.2.family = .sequence ↔ entry.1 ∈ ["Sequence", "typing.Sequence"]) ∧
      (entry.2.family = .tuple ↔ entry.1 ∈ ["tuple", "typing.Tuple"])) ∧
    ∀ w k, (kindOf t).result = .ok (some k) → t.isUnion = false → StandsFor w t →
      (kindOf w).result = .ok (some k) ∧
      (∃ o, optionalOf w = .ok o) ∧ (∃ o, bar w noneObject = .ok o) ∧
      ∀ o, IsOptionalOf w o ∨ Present o w → (kindOf o).result = .ok (some k) := by
  simp only [kindOf_eq_some_iff, kindOf_eq_none_iff, kindOf_eq_error_iff]
  refine ⟨?_, ?_, ?_, by decide, ?_⟩
  · exact ⟨t.unwrapOptional, present_iff.mpr rfl, fun u hu => (present_iff.mp hu).symm⟩
  · intro u
    exact ⟨u.unwrapAlias, unaliased_iff.mpr rfl, fun r hr => (unaliased_iff.mp hr).symm⟩
  · intro u r hu hr
    obtain rfl := present_iff.mp hu
    obtain rfl := unaliased_iff.mp hr
    exact ⟨fun k => kind?_eq_some_iff, and_congr_left fun _ => kind?_eq_none_iff,
      fun e => and_congr_left fun _ => kind?_eq_none_iff⟩
  · intro w k hk ht hw
    have hwk : w.kind? = some k := hw.kind?_eq ht hk
    have hwu : w.isUnion = false := hw.isUnion_eq ht
    have hs : w.IsSimple := ⟨by simp [hwk], hwu⟩
    refine ⟨hwk, ⟨_, hs.optionalOf_eq⟩, ⟨_, hs.bar_eq⟩, ?_⟩
    intro o ho
    have hp : Present o w := ho.elim (fun h => present_iff.mpr (h.unwrapOptional_eq hs)) id
    exact hp.kind?_eq hwu hwk

def slug : TypeExpr := synonym 2 ⟨"shapes", "Slug"⟩ (synonym 1 ⟨"shapes", "Tag"⟩ textType)

def slugList : TypeExpr := generic ⟨"typing.List", .list, true, some 1⟩ [slug]

def slugs : TypeExpr := synonym 3 ⟨"shapes", "Slugs"⟩ slugList

/-- Absence may also come first, and aliases may stand at both depths. A list of numbers in the
place of types is of no kind, which is not found out if a number is too long. -/
theorem kindOf_slugs :
    HasForm .stringList slugList ∧ StandsFor slugs slugList ∧
    Present (union [noneType, slugs]) slugs ∧
    (kindOf slugList).result = .ok (some .stringList) ∧
    (kindOf (union [noneType, slugs])).result = .ok (some .stringList) ∧
    (kindOf (numbered 3)).result = .ok none ∧
    (kindOf (numbered Text.leastLong)).result = .error (.unwritten .tooManyDigits) := by
  have hf : HasForm .stringList slugList := .list (.inl rfl) (.named (.named .self))
  have hs : StandsFor slugs slugList := .named .self
  have hp : Present (union [noneType, slugs]) slugs := by
    refine .member rfl ⟨[noneType], [], rfl, ?_, by simp⟩
    intro h
    cases h
  obtain ⟨-, -, hkind, -, hwrap⟩ := kindOf_iff_hasForm slugList
  have hk : (kindOf slugList).result = .ok (some .stringList) :=
    ((hkind slugList slugList (.whole (.inl rfl)) ⟨.self, rfl⟩).1 .stringList).mpr hf
  obtain ⟨-, -, -, ho⟩ := hwrap slugs .stringList hk rfl hs
  have hnum : ∀ n, (∀ k, ¬ HasForm k (numbered n)) := by
    intro n k h
    cases h with
    | list hf hs => cases hs
  have hn := fun n => (kindOf_iff_hasForm (numbered n)).2.2.1 (numbered n) (numbered n)
    (.whole (.inl rfl)) ⟨.self, rfl⟩
  refine ⟨hf, hs, hp, hk, ho _ (.inr hp), (hn 3).2.1.mpr ⟨hnum 3, _, rfl⟩, ?_⟩
  generalize hl : (Text.leastLong : Int) = n
  have hd := numbered_display n
  rw [Text.whole_of_long (hl ▸ Text.isTooLong_leastLong)] at hd
  exact ((hn n).2.2 _).mpr ⟨hnum n, _, hd, rfl⟩

end RecordSchema.TypeExpr
