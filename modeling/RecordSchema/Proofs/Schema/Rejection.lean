import RecordSchema.Proofs.Schema.Fields
import RecordSchema.Record.Bundled

/-! # Why a record has no schema

The causes are ranked: what is no record, then a type that cannot be read anywhere in the lineage,
then the first field without a tag, a kind or a value, and last the first whole-number field without
a whole number. In one field the tag comes before the kind; what a value is never comes before the
tag or the kind of a later field.

Beside the causes that a record is rejected for there are those that nobody reports: a subject, a
type or a number out of range that has no text, and an instance that lacks an attribute. They stand
in the same order.
-/
namespace RecordSchema
variable {s : Subject} {tagKey : String} {c : RecordClass} {hints : Named TypeExpr}

/-- The walk over a record stops at a field: those in front of it are readable and present. -/
def StopsAt (s : Subject) (tagKey : String) (hints : Named TypeExpr) (f : Field) : Prop :=
  ∃ c before after, s.record? = some c ∧ lineageHints c.scope c.lineage = .ok hints ∧
    c.fields = before ++ f :: after ∧ ∀ g ∈ before, g.Readable tagKey hints ∧ s.Has g

/-- The mapping of a record stops at a whole-number field: all fields are readable and present, and
those in front of it are mapped. -/
def StopsMappingAt (s : Subject) (tagKey : String) (hints : Named TypeExpr) (f : Field) : Prop :=
  (hintOf hints f.name).kind? = some .int ∧
    ∃ c before after, s.record? = some c ∧ lineageHints c.scope c.lineage = .ok hints ∧
      (∀ g ∈ c.fields, g.Readable tagKey hints ∧ s.Has g) ∧ c.fields = before ++ f :: after ∧
      ∀ g ∈ before, s.Widens hints g ∧ s.IsShort hints g

/-- The error that a subject is rejected with, and its class. -/
inductive Rejected (s : Subject) (tagKey : String) : ErrorClass → SchemaError → Prop
  | notARecord {shown : String} (hs : s.record? = none) (ht : s.shown = .ok shown) :
      Rejected s tagKey .recordType (.notARecord shown)
  | unresolved {c : RecordClass} {cause : Expression.Fault} (hc : s.record? = some c)
      (he : lineageHints c.scope c.lineage = .error cause) (hd : cause.isInDeclaration) :
      Rejected s tagKey .recordType (.unresolved c.name.name cause)
  | missingTag {hints : Named TypeExpr} {f : Field} (hf : StopsAt s tagKey hints f)
      (ht : f.tag? tagKey = none) : Rejected s tagKey .missingTag (.missingTag f.name tagKey)
  | unsupportedType {hints : Named TypeExpr} {f : Field} {shown : String}
      (hf : StopsAt s tagKey hints f) (ht : (f.tag? tagKey).isSome)
      (hk : (hintOf hints f.name).kind? = none) (hn : nativeTypeOf hints f = .ok shown) :
      Rejected s tagKey .unsupportedType (.unsupportedType f.name shown)
  | notAnInteger {hints : Named TypeExpr} {f : Field} {v : Value} {shown : String}
      (hf : StopsMappingAt s tagKey hints f)
      (hv : s.fieldValue f .int (hintOf hints f.name).isOptional = .ok v) (hi : v.toInt? = none)
      (hn : nativeTypeOf hints f = .ok shown) :
      Rejected s tagKey .unsupportedType (.notAnInteger f.name v.className shown)

/-- The error that stops a subject without being a rejection. -/
inductive Escapes (s : Subject) (tagKey : String) : SchemaError → Prop
  | subjectText {e : WriteError} (hs : s.record? = none) (ht : s.shown = .error e) :
      Escapes s tagKey (.unwritten e)
  | typeText {hints : Named TypeExpr} {f : Field} {e : WriteError}
      (hf : StopsAt s tagKey hints f) (ht : (f.tag? tagKey).isSome)
      (hk : (hintOf hints f.name).kind? = none) (hn : nativeTypeOf hints f = .error e) :
      Escapes s tagKey (.unwritten e)
  | noAttribute {i : Instance} {hints : Named TypeExpr} {f : Field} (hi : s = .instance i)
      (hf : StopsAt s tagKey hints f) (hr : f.Readable tagKey hints)
      (ha : i.attribute? f.name = none) :
      Escapes s tagKey (.noAttribute i.cls.name.name f.name)
  | numberText {hints : Named TypeExpr} {f : Field} {n : Int}
      (hf : StopsMappingAt s tagKey hints f) (hv : s.number? hints f = some n)
      (hn : Text.isTooLong n = true) : Escapes s tagKey (.unwritten .tooManyDigits)

theorem Rejected.class?_eq {k : ErrorClass} {e : SchemaError} (h : Rejected s tagKey k e) :
    e.class? = some k := by
  cases h with
  | unresolved hc he hd => exact if_pos hd
  | notARecord | missingTag | unsupportedType | notAnInteger => rfl

theorem Escapes.class?_eq {e : SchemaError} (h : Escapes s tagKey e) : e.class? = none := by
  cases h <;> rfl

theorem hints_eq_ok_iff :
    c.hints = .ok hints ↔ lineageHints c.scope c.lineage = .ok hints := by
  unfold RecordClass.hints
  cases lineageHints c.scope c.lineage <;> simp

theorem hints_of_error {cause : Expression.Fault}
    (h : lineageHints c.scope c.lineage = .error cause) :
    c.hints = .error (.unresolved c.name.name cause) := by
  rw [RecordClass.hints, h]

theorem rawValue_eq_error_iff {f : Field} {e : SchemaError} : s.rawValue f = .error e ↔
    ∃ i, s = .instance i ∧ i.attribute? f.name = none ∧ e = .noAttribute i.cls.name.name f.name := by
  cases s with
  | cls c => simp [Subject.rawValue]
  | plain shown => simp [Subject.rawValue]
  | «instance» i =>
    cases ha : i.attribute? f.name <;> simp [Subject.rawValue, ha, eq_comm]

/-- Where the walk stops, the error says what is wrong with the field. -/
theorem StopsAt.mapped_result {f : Field} {e : SchemaError} (h : StopsAt s tagKey hints f)
    (he : (describe s tagKey hints f).result = .error e) : (s.mapped tagKey).result = .error e := by
  obtain ⟨c, before, after, hc, hh, hf, hb⟩ := h
  rw [mapped_of_hints hc (hints_eq_ok_iff.mpr hh),
    mapM_describe_eq_error_iff.mpr ⟨before, f, after, hf, hb, he⟩]
  rfl

/-- Where the mapping stops, the error says what is wrong with the number. -/
theorem StopsMappingAt.mapped_result {f : Field} {e : SchemaError}
    (h : StopsMappingAt s tagKey hints f)
    (he : ∀ d, Describes s tagKey hints f d → (mapField d).result = .error e) :
    (s.mapped tagKey).result = .error e := by
  obtain ⟨-, c, before, after, hc, hh, hr, hf, hb⟩ := h
  obtain ⟨ds, hw⟩ := walked_of_readable (fun g hg => (hr g hg).1) fun g hg => (hr g hg).2
  rw [mapped_of_hints hc (hints_eq_ok_iff.mpr hh), mapM_describe_eq_ok_iff.mpr hw, ok_bind,
    mapEach_eq_error_iff]
  rw [hf] at hw
  obtain ⟨front, d, back, rfl, hfront, hd⟩ := exists_partner hw.flip
  refine ⟨front, d, back, rfl, ?_, he d hd⟩
  intro b hm
  obtain ⟨g, hg, hgb⟩ := exists_mem_left hfront.flip hm
  exact (Describes.maps_iff hgb).mpr (hb g hg)

theorem Rejected.mapped_result {k : ErrorClass} {e : SchemaError} (h : Rejected s tagKey k e) :
    (s.mapped tagKey).result = .error e := by
  cases h with
  | notARecord hs ht =>
    rw [mapped_of_plain hs, Subject.notARecord, ht]
  | unresolved hc he hd => exact mapped_of_unresolved hc (hints_of_error he)
  | missingTag hf ht => exact hf.mapped_result (describe_of_untagged ht)
  | unsupportedType hf ht hk hn =>
    refine hf.mapped_result ?_
    rw [describe_of_unsupported ht hk, unsupported, hn]
  | notAnInteger hf hv hi hn =>
    refine hf.mapped_result fun d hd => ?_
    have hk : d.kind = .int := Option.some.inj (hd.kind_eq.symm.trans hf.1)
    have hdv := hd.value_eq
    rw [hk, hv] at hdv
    cases hdv
    cases hd.nativeType_eq.symm.trans hn
    rw [← hd.name_eq]
    exact mapField_of_not_widens hk hi

theorem Escapes.mapped_result {e : SchemaError} (h : Escapes s tagKey e) :
    (s.mapped tagKey).result = .error e := by
  cases h with
  | subjectText hs ht =>
    rw [mapped_of_plain hs, Subject.notARecord, ht]
  | typeText hf ht hk hn =>
    refine hf.mapped_result ?_
    rw [describe_of_unsupported ht hk, unsupported, hn]
  | noAttribute hi hf hr ha =>
    exact hf.mapped_result (describe_eq_error_iff.mpr
      (.inr (.inr ⟨hr, rawValue_eq_error_iff.mpr ⟨_, hi, ha, rfl⟩⟩)))
  | numberText hf hv hn =>
    refine hf.mapped_result fun d hd => ?_
    have hk : d.kind = .int := Option.some.inj (hd.kind_eq.symm.trans hf.1)
    exact mapField_of_long hk ((hd.number_eq hk).symm.trans hv) hn

/-- The errors of the walk, by what is wrong with the field that it stops at. -/
theorem StopsAt.stopped {f : Field} {e : SchemaError} (h : StopsAt s tagKey hints f)
    (he : (describe s tagKey hints f).result = .error e) :
    (∃ k, Rejected s tagKey k e) ∨ Escapes s tagKey e := by
  rcases describe_eq_error_iff.mp he with ⟨ht, rfl⟩ | ⟨ht, hk, rfl⟩ | ⟨hr, ha⟩
  · exact .inl ⟨.missingTag, .missingTag h ht⟩
  · rw [unsupported]
    cases hn : nativeTypeOf hints f with
    | ok shown => exact .inl ⟨_, .unsupportedType h ht hk hn⟩
    | error e => exact .inr (.typeText h ht hk hn)
  · obtain ⟨i, hi, hn, rfl⟩ := rawValue_eq_error_iff.mp ha
    exact .inr (.noAttribute hi h hr hn)

/-- The errors of the mapping, by what is wrong with the number of the field that it stops at. -/
theorem StopsMappingAt.stopped {f : Field} {d : Descriptor} {e : SchemaError}
    (h : StopsMappingAt s tagKey hints f) (hd : Describes s tagKey hints f d)
    (he : (mapField d).result = .error e) :
    (∃ k, Rejected s tagKey k e) ∨ Escapes s tagKey e := by
  obtain ⟨hk, ⟨hv, rfl⟩ | ⟨n, hv, hn, rfl⟩⟩ := mapField_eq_error_iff.mp he
  · refine .inl ⟨.unsupportedType, ?_⟩
    rw [hd.name_eq]
    exact .notAnInteger h (hk ▸ hd.value_eq) hv hd.nativeType_eq
  · exact .inr (.numberText h ((hd.number_eq hk).trans hv) hn)

/-- Where all types can be read, the walk stops at a field, or else the mapping does. -/
theorem stopped_of_hints {e : SchemaError} (hc : s.record? = some c)
    (hh : lineageHints c.scope c.lineage = .ok hints)
    (h : (s.mapped tagKey).result = .error e) :
    (∃ k, Rejected s tagKey k e) ∨ Escapes s tagKey e := by
  rw [mapped_of_hints hc (hints_eq_ok_iff.mpr hh)] at h
  cases hds : c.fields.mapM fun f => (describe s tagKey hints f).result with
  | error e' =>
    rw [hds] at h
    cases h
    obtain ⟨before, f, after, hf, hb, he⟩ := mapM_describe_eq_error_iff.mp hds
    exact StopsAt.stopped ⟨c, before, after, hc, hh, hf, hb⟩ he
  | ok ds =>
    rw [hds, ok_bind] at h
    have hw := mapM_describe_eq_ok_iff.mp hds
    obtain ⟨front, d, back, rfl, hfront, he⟩ := mapEach_eq_error_iff.mp h
    obtain ⟨before, f, after, hf, hbefore, hfd⟩ := exists_partner hw
    have hr : ∀ g ∈ c.fields, g.Readable tagKey hints ∧ s.Has g := by
      intro g hg
      obtain ⟨d, -, hgd⟩ := exists_mem_left hw.flip hg
      exact ⟨Describes.readable hgd, Describes.has hgd⟩
    have hb : ∀ g ∈ before, s.Widens hints g ∧ s.IsShort hints g := by
      intro g hg
      obtain ⟨b, hm, hgb⟩ := exists_mem_left hbefore.flip hg
      exact (Describes.maps_iff hgb).mp (hfront b hm)
    have hk : d.kind = .int := (mapField_eq_error_iff.mp he).1
    exact StopsMappingAt.stopped ⟨hk ▸ hfd.kind_eq, c, before, after, hc, hh, hr, hf, hb⟩ hfd he

theorem stopped_of_error {e : SchemaError}
    (hd : ∀ c cause, s.record? = some c → lineageHints c.scope c.lineage = .error cause →
      cause.isInDeclaration)
    (h : (s.mapped tagKey).result = .error e) :
    (∃ k, Rejected s tagKey k e) ∨ Escapes s tagKey e := by
  cases hc : s.record? with
  | none =>
    rw [mapped_of_plain hc, Subject.notARecord] at h
    cases ht : s.shown with
    | ok shown =>
      rw [ht] at h
      cases h
      exact .inl ⟨_, .notARecord hc ht⟩
    | error e' =>
      rw [ht] at h
      cases h
      exact .inr (.subjectText hc ht)
  | some c =>
    cases hh : lineageHints c.scope c.lineage with
    | error cause =>
      rw [mapped_of_unresolved hc (hints_of_error hh)] at h
      cases h
      exact .inl ⟨_, .unresolved hc hh (hd c cause hc hh)⟩
    | ok hints => exact stopped_of_hints hc hh h

end RecordSchema
