import RecordSchema.Proofs.Agreement
import RecordSchema.Proofs.Record.Walk

/-! # Two walks side by side

What the walk yields for a field is fixed by the name, the tag, the kind and the native type of the
field, and by its value; a value is only copied. So two walks over fields that match one another
agree, up to what their values have in common.
-/
namespace RecordSchema
variable {s s' : Subject} {tagKey : String} {hints hints' : Named TypeExpr} {f f' : Field}
  {d d' : Descriptor} {V : Kind → Value → Value → Prop}

section Values
variable {k : Kind} {o o' : Bool}

theorem fieldValue_congr (h : s'.rawValue f' = s.rawValue f) :
    s'.fieldValue f' k o = s.fieldValue f k o := by
  rw [Subject.fieldValue, Subject.fieldValue, h]

theorem fieldValue_of_error {e : SchemaError} (h : s.rawValue f = .error e) :
    s.fieldValue f k o = .error e :=
  fieldValue_eq_error_iff.mpr h

theorem fieldValue_of_none (h : s.rawValue f = .ok none) : s.fieldValue f k o = .ok k.zero := by
  rw [Subject.fieldValue, h]
  rfl

/-- Absence in an optional field counts as the zero of its kind. -/
theorem fieldValue_of_null (h : s.rawValue f = .ok (some .null)) :
    s.fieldValue f k true = .ok k.zero := by
  rw [Subject.fieldValue, h]
  rfl

theorem fieldValue_of_ne_null {v : Value} (h : s.rawValue f = .ok (some v)) (hv : v ≠ .null) :
    s.fieldValue f k o = .ok v := by
  rw [Subject.fieldValue, h]
  cases v <;> first | rfl | exact absurd rfl hv

theorem Kind.zero_ne_null (k : Kind) : k.zero ≠ .null := by
  cases k <;> nofun

end Values

/-- Two fields that the walk takes for the same, values apart. -/
structure Field.Matches (tagKey : String) (hints hints' : Named TypeExpr) (f f' : Field) :
    Prop where
  name_eq : f'.name = f.name
  tag_eq : f'.tag? tagKey = f.tag? tagKey
  kind_eq : (hintOf hints' f'.name).kind? = (hintOf hints f.name).kind?
  nativeType_eq : nativeTypeOf hints' f' = nativeTypeOf hints f

/-- Two descriptors that are the same up to their values, which are related as those of their
kind are to be. -/
structure Descriptor.Related (V : Kind → Value → Value → Prop) (d d' : Descriptor) : Prop where
  name_eq : d'.name = d.name
  tag_eq : d'.tag = d.tag
  kind_eq : d'.kind = d.kind
  nativeType_eq : d'.nativeType = d.nativeType
  values : V d.kind d.value d'.value

/-- The two fields stand for values that are related, or the same error comes up for both. -/
def ValuesRelated (V : Kind → Value → Value → Prop) (s s' : Subject) (hints hints' : Named TypeExpr)
    (f f' : Field) : Prop :=
  ∀ k, (hintOf hints f.name).kind? = some k →
    Agree (V k) (s.fieldValue f k (hintOf hints f.name).isOptional)
      (s'.fieldValue f' k (hintOf hints' f'.name).isOptional)

theorem Field.Matches.unsupported_eq (h : f.Matches tagKey hints hints' f') :
    unsupported hints' f' = unsupported hints f := by
  rw [unsupported, unsupported, h.nativeType_eq, h.name_eq]

theorem Descriptor.Related.eq (h : d.Related (fun _ v v' => v' = v) d') : d' = d := by
  cases d
  cases d'
  obtain ⟨rfl, rfl, rfl, rfl, rfl⟩ := h
  rfl

theorem describe_agree (h : f.Matches tagKey hints hints' f')
    (hv : ValuesRelated V s s' hints hints' f f') :
    Agree (Descriptor.Related V) (describe s tagKey hints f).result
      (describe s' tagKey hints' f').result := by
  cases ht : f.tag? tagKey with
  | none =>
    rw [describe_of_untagged ht, describe_of_untagged (h.tag_eq.trans ht), h.name_eq]
    exact .fails _
  | some tag =>
    have hs : (f.tag? tagKey).isSome := by simp [ht]
    cases hk : (hintOf hints f.name).kind? with
    | none =>
      rw [describe_of_unsupported hs hk,
        describe_of_unsupported (h.tag_eq ▸ hs) (h.kind_eq.trans hk), h.unsupported_eq]
      exact .fails _
    | some k =>
      have hr : f.Readable tagKey hints := ⟨hs, by simp [hk]⟩
      obtain ⟨shown, hn⟩ := hr.nativeType
      rw [describe_of_readable ht hk hn, describe_of_readable (h.tag_eq.trans ht)
        (h.kind_eq.trans hk) (h.nativeType_eq.trans hn)]
      exact (hv k hk).map fun v v' hvv => ⟨h.name_eq, rfl, rfl, rfl, hvv⟩

/-- Walks over two records agree if the declared types are read alike and the fields match. -/
theorem descriptors_agree {c c' : RecordClass} {H : Named TypeExpr → Named TypeExpr → Prop}
    (hc : s.record? = some c) (hc' : s'.record? = some c') (hh : Agree H c.hints c'.hints)
    (hf : ∀ hints hints', c.hints = .ok hints → c'.hints = .ok hints' → H hints hints' →
      List.Forall₂ (fun f f' => f.Matches tagKey hints hints' f' ∧
        ValuesRelated V s s' hints hints' f f') c.fields c'.fields) :
    Agree (List.Forall₂ (Descriptor.Related V)) (s.descriptors tagKey).result
      (s'.descriptors tagKey).result := by
  cases he : c.hints with
  | error e =>
    rw [he] at hh
    generalize he' : c'.hints = x' at hh
    cases hh
    rw [descriptors_of_unresolved hc he, descriptors_of_unresolved hc' he']
    exact .fails e
  | ok hints =>
    rw [he] at hh
    generalize he' : c'.hints = x' at hh
    cases hh with
    | yields h =>
      rw [descriptors_of_hints hc he, descriptors_of_hints hc' he']
      exact mapM_agree ((hf _ _ he he' h).imp fun f f' h => describe_agree h.1 h.2)

theorem descriptors_eq (h : Agree (List.Forall₂ (Descriptor.Related fun _ v v' => v' = v))
    (s.descriptors tagKey).result (s'.descriptors tagKey).result) :
    (s'.descriptors tagKey).result = (s.descriptors tagKey).result := by
  refine (h.eq fun ds ds' hd => ?_).symm
  have he : List.Forall₂ Eq ds ds' := hd.imp fun d d' hd => (Descriptor.Related.eq hd).symm
  rwa [List.forall₂_eq_eq_eq] at he

end RecordSchema
