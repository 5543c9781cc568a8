import RecordSchema.Proofs.Schema.Rejection

/-! # How the building of a schema fails

Walking over the fields, mapping them and writing a schema fail with an error of the build, or with
one that passes through: the fault of a type that cannot be read, a text that cannot be written, or
the lack of an attribute. The fault of a type is an error of the build if a name is missing or a type
is put together wrongly.
-/
namespace RecordSchema
variable {s : Subject} {tagKey : String} {c : RecordClass} {cause : Expression.Fault}
  {e : SchemaError}

/-- The error is one that walking, mapping or writing ends with. -/
inductive Subject.FailsWith (s : Subject) (tagKey : String) (e : SchemaError) : Prop
  | walking (h : (s.descriptors tagKey).result = .error e)
  | mapping (h : (s.mapped tagKey).result = .error e)
  | writing {views : List View} (h : (s.schema tagKey views).result = .error e)
  | writingView {v : View} (h : (s.viewSchema tagKey v).result = .error e)

/-- Errors of the build are those that have a class. -/
theorem SchemaError.isBuild_eq_isSome (e : SchemaError) : e.isBuild = e.class?.isSome := by
  cases e with
  | unresolved c cause =>
    rw [isBuild, class?]
    cases cause.isInDeclaration <;> rfl
  | notARecord | missingTag | unsupportedType | notAnInteger | noAttribute | unwritten => rfl

/-- What ends the walk also ends all that comes after it. -/
theorem mapped_of_descriptors (h : (s.descriptors tagKey).result = .error e) :
    (s.mapped tagKey).result = .error e := by
  rw [Subject.mapped, Logged.result_bind, h]
  rfl

theorem Subject.FailsWith.mapped_result (h : s.FailsWith tagKey e) :
    (s.mapped tagKey).result = .error e := by
  cases h with
  | walking h => exact mapped_of_descriptors h
  | mapping h => exact h
  | writing h => exact schema_eq_error_iff.mp h
  | writingView h => exact viewSchema_eq_error_iff.mp h

end RecordSchema
