import RecordSchema.Proofs.TypeExpr.Display
import RecordSchema.Record.Descriptor

/-! # The walk over the fields of a record

A field is readable if it has a tag and a type of some kind, and present if the record gives it a
value or is a class; what the walk then yields for it is fixed by `Describes`. What the value is
takes no part in whether a field can be walked past.
-/
namespace RecordSchema
variable {s : Subject} {tagKey : String} {hints : Named TypeExpr} {f : Field} {d : Descriptor}

/-- The name that messages have for the declared type of a field, its optional layer left aside, if
it can be written. -/
def nativeTypeOf (hints : Named TypeExpr) (f : Field) : Except WriteError String :=
  (hintOf hints f.name).unwrapOptional.display

def Field.Readable (f : Field) (tagKey : String) (hints : Named TypeExpr) : Prop :=
  (f.tag? tagKey).isSome ∧ (hintOf hints f.name).kind?.isSome

/-- The subject does not lack the attribute of a field. -/
def Subject.Has (s : Subject) (f : Field) : Prop := ∃ v, s.rawValue f = .ok v

instance (s : Subject) (f : Field) : Decidable (s.Has f) :=
  decidable_of_iff ((s.rawValue f).isOk = true) (by
    rw [Subject.Has]
    cases s.rawValue f <;> simp [Except.isOk, Except.toBool])

/-- The descriptor tells of the field what its metadata, its type and its value say. -/
structure Describes (s : Subject) (tagKey : String) (hints : Named TypeExpr) (f : Field)
    (d : Descriptor) : Prop where
  name_eq : d.name = f.name
  tag_eq : f.tag? tagKey = some d.tag
  kind_eq : (hintOf hints f.name).kind? = some d.kind
  value_eq : s.fieldValue f d.kind (hintOf hints f.name).isOptional = .ok d.value
  nativeType_eq : nativeTypeOf hints f = .ok d.nativeType

/-- What is said about a type that is of no kind: that it is unsupported, or nothing of the sort if
the type has no text. -/
def unsupported (hints : Named TypeExpr) (f : Field) : SchemaError :=
  match nativeTypeOf hints f with
  | .ok shown => .unsupportedType f.name shown
  | .error e => .unwritten e

theorem rawValue_of_class {c : RecordClass} : (Subject.cls c).rawValue f = .ok f.initial? := rfl

theorem fieldValue_eq_error_iff {k : Kind} {o : Bool} {e : SchemaError} :
    s.fieldValue f k o = .error e ↔ s.rawValue f = .error e :=
  map_eq_error_iff

theorem Subject.Has.fieldValue (h : s.Has f) (k : Kind) (o : Bool) :
    ∃ v, s.fieldValue f k o = .ok v := by
  obtain ⟨v, hv⟩ := h
  exact ⟨k.orZero o v, congrArg _ hv⟩

theorem kindOf_of_kind {t : TypeExpr} {k : Kind} (h : t.kind? = some k) :
    (kindOf t).result = .ok (some k) := by
  rw [kindOf, h]
  rfl

theorem kindOf_of_text {t : TypeExpr} {shown : String} (h : t.kind? = none)
    (ht : t.display = .ok shown) : (kindOf t).result = .ok none := by
  rw [kindOf, h, ht]
  rfl

theorem kindOf_of_no_text {t : TypeExpr} {e : WriteError} (h : t.kind? = none)
    (ht : t.display = .error e) : (kindOf t).result = .error (.unwritten e) := by
  rw [kindOf, h, ht]
  rfl

/-- A tag is looked for before a kind. -/
theorem describe_of_untagged (ht : f.tag? tagKey = none) :
    (describe s tagKey hints f).result = .error (.missingTag f.name tagKey) := by
  simp only [describe, ht]
  rfl

theorem describe_of_unsupported (ht : (f.tag? tagKey).isSome)
    (hk : (hintOf hints f.name).kind? = none) :
    (describe s tagKey hints f).result = .error (unsupported hints f) := by
  obtain ⟨tag, ht⟩ := Option.isSome_iff_exists.mp ht
  simp only [describe, ht, Logged.result_bind, Logged.result_of, unsupported, nativeTypeOf]
  cases hn : (hintOf hints f.name).unwrapOptional.display with
  | error e => rfl
  | ok shown =>
    -- the type has a text with its optional layer if it has one without
    cases hd : (hintOf hints f.name).display with
    | error e =>
      cases hn.symm.trans (TypeExpr.unwrapOptional_display_eq_error_iff.mpr hd)
    | ok name =>
      rw [kindOf_of_text hk hd]
      rfl

theorem Field.Readable.nativeType (h : f.Readable tagKey hints) :
    ∃ shown, nativeTypeOf hints f = .ok shown :=
  TypeExpr.display_of_kind h.2

/-- A readable field is described by its value, if there is one. -/
theorem describe_of_readable {tag shown : String} {k : Kind} (ht : f.tag? tagKey = some tag)
    (hk : (hintOf hints f.name).kind? = some k) (hn : nativeTypeOf hints f = .ok shown) :
    (describe s tagKey hints f).result =
      (s.fieldValue f k (hintOf hints f.name).isOptional).map fun v =>
        ⟨f.name, tag, k, v, shown⟩ := by
  have hn : (hintOf hints f.name).unwrapOptional.display = .ok shown := hn
  simp only [describe, ht, Logged.result_bind, Logged.result_of, hn, SchemaError.written_ok, ok_bind,
    kindOf_of_kind hk]
  cases s.fieldValue f k (hintOf hints f.name).isOptional <;> rfl

theorem Describes.result (h : Describes s tagKey hints f d) :
    (describe s tagKey hints f).result = .ok d := by
  rw [describe_of_readable h.tag_eq h.kind_eq h.nativeType_eq, h.value_eq, ← h.name_eq]
  rfl

theorem Describes.readable (h : Describes s tagKey hints f d) : f.Readable tagKey hints :=
  ⟨by simp [h.tag_eq], by simp [h.kind_eq]⟩

theorem Describes.has (h : Describes s tagKey hints f d) : s.Has f := by
  obtain ⟨v, hv, -⟩ := map_eq_ok_iff.mp h.value_eq
  exact ⟨v, hv⟩

theorem Field.Readable.describes (h : f.Readable tagKey hints) (hs : s.Has f) :
    ∃ d, Describes s tagKey hints f d := by
  obtain ⟨tag, ht⟩ := Option.isSome_iff_exists.mp h.1
  obtain ⟨k, hk⟩ := Option.isSome_iff_exists.mp h.2
  obtain ⟨shown, hn⟩ := h.nativeType
  obtain ⟨v, hv⟩ := hs.fieldValue k (hintOf hints f.name).isOptional
  exact ⟨⟨f.name, tag, k, v, shown⟩, rfl, ht, hk, hv, hn⟩

/-- A field that cannot be walked past has no tag, or no kind, or else the subject lacks it. -/
theorem describe_eq_error_iff {e : SchemaError} :
    (describe s tagKey hints f).result = .error e ↔
      (f.tag? tagKey = none ∧ e = .missingTag f.name tagKey) ∨
      ((f.tag? tagKey).isSome ∧ (hintOf hints f.name).kind? = none ∧ e = unsupported hints f) ∨
      (f.Readable tagKey hints ∧ s.rawValue f = .error e) := by
  cases ht : f.tag? tagKey with
  | none =>
    rw [describe_of_untagged ht, Except.error.injEq, @eq_comm _ _ e]
    simp [Field.Readable, ht]
  | some tag =>
    cases hk : (hintOf hints f.name).kind? with
    | none =>
      rw [describe_of_unsupported (by simp [ht]) hk, Except.error.injEq, @eq_comm _ _ e]
      simp [Field.Readable, hk]
    | some k =>
      have hr : f.Readable tagKey hints := by simp [Field.Readable, ht, hk]
      obtain ⟨shown, hn⟩ := hr.nativeType
      rw [describe_of_readable ht hk hn, map_eq_error_iff, fieldValue_eq_error_iff]
      simp [hr]

theorem describe_eq_ok_iff :
    (describe s tagKey hints f).result = .ok d ↔ Describes s tagKey hints f d := by
  refine ⟨fun h => ?_, Describes.result⟩
  have hn : ∀ e, (describe s tagKey hints f).result ≠ .error e := by
    intro e he
    cases h.symm.trans he
  have ht : (f.tag? tagKey).isSome := by
    rw [Option.isSome_iff_ne_none]
    exact fun ht => hn _ (describe_of_untagged ht)
  have hk : (hintOf hints f.name).kind?.isSome := by
    rw [Option.isSome_iff_ne_none]
    exact fun hk => hn _ (describe_of_unsupported ht hk)
  have hs : s.Has f := by
    cases hv : s.rawValue f with
    | ok v => exact ⟨v, hv⟩
    | error e => exact absurd (describe_eq_error_iff.mpr (.inr (.inr ⟨⟨ht, hk⟩, hv⟩))) (hn e)
  obtain ⟨d', hd⟩ := Field.Readable.describes ⟨ht, hk⟩ hs
  cases hd.result.symm.trans h
  exact hd

theorem describeAll_result (fs : List Field) :
    (describeAll s tagKey hints fs).result =
      fs.mapM fun f => (describe s tagKey hints f).result := by
  induction fs with
  | nil => rfl
  | cons f fs ih =>
    simp only [describeAll, Logged.result_bind, Logged.result_pure, ih, List.mapM_cons]
    rfl

theorem descriptors_of_plain (hs : s.record? = none) :
    (s.descriptors tagKey).result = .error s.notARecord := by
  simp only [Subject.descriptors, hs]
  rfl

theorem descriptors_of_unresolved {c : RecordClass} {e : SchemaError} (hc : s.record? = some c)
    (he : c.hints = .error e) : (s.descriptors tagKey).result = .error e := by
  simp only [Subject.descriptors, hc, Logged.result_bind, Logged.result_of, he]
  rfl

theorem descriptors_of_hints {c : RecordClass} (hc : s.record? = some c)
    (hh : c.hints = .ok hints) :
    (s.descriptors tagKey).result =
      c.fields.mapM fun f => (describe s tagKey hints f).result := by
  simp only [Subject.descriptors, hc, Logged.result_bind, Logged.result_of, hh, ok_bind,
    describeAll_result]
  cases c.fields.mapM fun f => (describe s tagKey hints f).result <;> rfl

/-- All fields are readable and present, or the first that is not stops the walk. -/
theorem mapM_describe_eq_error_iff {fs : List Field} {e : SchemaError} :
    (fs.mapM fun f => (describe s tagKey hints f).result) = .error e ↔
      ∃ before f after, fs = before ++ f :: after ∧
        (∀ g ∈ before, g.Readable tagKey hints ∧ s.Has g) ∧
        (describe s tagKey hints f).result = .error e := by
  have hr : ∀ g : Field, (∃ d, (describe s tagKey hints g).result = .ok d) ↔
      g.Readable tagKey hints ∧ s.Has g := fun g =>
    ⟨fun ⟨d, hd⟩ => ⟨(describe_eq_ok_iff.mp hd).readable, (describe_eq_ok_iff.mp hd).has⟩,
      fun h => (h.1.describes h.2).imp fun _ hd => hd.result⟩
  simp only [mapM_eq_error_iff, hr]

theorem mapM_describe_eq_ok_iff {fs : List Field} {ds : List Descriptor} :
    (fs.mapM fun f => (describe s tagKey hints f).result) = .ok ds ↔
      List.Forall₂ (Describes s tagKey hints) fs ds := by
  simp only [mapM_eq_ok_iff, describe_eq_ok_iff]

/-- What a walk yields, field by field. -/
theorem descriptors_eq_ok_iff {ds : List Descriptor} :
    (s.descriptors tagKey).result = .ok ds ↔ ∃ c hints, s.record? = some c ∧
      c.hints = .ok hints ∧ List.Forall₂ (Describes s tagKey hints) c.fields ds := by
  constructor
  · intro h
    cases hc : s.record? with
    | none => rw [descriptors_of_plain hc] at h; cases h
    | some c =>
      cases hh : c.hints with
      | error e => rw [descriptors_of_unresolved hc hh] at h; cases h
      | ok hints =>
        rw [descriptors_of_hints hc hh] at h
        exact ⟨c, hints, rfl, hh, mapM_describe_eq_ok_iff.mp h⟩
  · rintro ⟨c, hints, hc, hh, hd⟩
    rw [descriptors_of_hints hc hh]
    exact mapM_describe_eq_ok_iff.mpr hd

theorem walked_of_readable {fs : List Field} (h : ∀ f ∈ fs, f.Readable tagKey hints)
    (hs : ∀ f ∈ fs, s.Has f) : ∃ ds, List.Forall₂ (Describes s tagKey hints) fs ds := by
  cases hds : fs.mapM fun f => (describe s tagKey hints f).result with
  | ok ds => exact ⟨ds, mapM_describe_eq_ok_iff.mp hds⟩
  | error e =>
    obtain ⟨before, f, after, hf, -, he⟩ := mapM_describe_eq_error_iff.mp hds
    have hm : f ∈ fs := by simp [hf]
    obtain ⟨d, hd⟩ := (h f hm).describes (hs f hm)
    cases hd.result.symm.trans he

end RecordSchema
