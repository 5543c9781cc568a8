import RecordSchema.Proofs.Record.Comparison
import RecordSchema.Proofs.Schema.Fields

/-! # Two schemas side by side

Mapping sees of a record what the walk yields, and writing sees of the mapped fields their names and
their types.
-/
namespace RecordSchema
variable {s s' : Subject} {tagKey : String} {D : Descriptor → Descriptor → Prop}
  {R : MappedField → MappedField → Prop} {ms ms' : List MappedField}

/-- What a schema shows of a field: its name and its type. -/
abbrev Entry := String × SchemaType

def MappedField.entry (m : MappedField) : Entry := (m.descriptor.externalName, m.type)

theorem blockOf_eq_of_entries (h : ms'.map MappedField.entry = ms.map MappedField.entry)
    (v : View) : blockOf ms' v = blockOf ms v := by
  have hl : ∀ ms : List MappedField, (ms.map fun m => BlockLine.mk 1 (m.line v)) =
      (ms.map MappedField.entry).map fun e => ⟨1, Block.fieldText e.1 e.2.name v.mark⟩ := by
    intro ms
    rw [List.map_map]
    rfl
  rw [blockOf, blockOf, hl, hl, h]

theorem schemaText_eq_of_entries (h : ms'.map MappedField.entry = ms.map MappedField.entry)
    (views : List View) : schemaText ms' views = schemaText ms views := by
  simp only [schemaText, blockOf_eq_of_entries h]

theorem mapped_agree
    (h : Agree (List.Forall₂ D) (s.descriptors tagKey).result (s'.descriptors tagKey).result)
    (hm : ∀ d d', D d d' → Agree R (mapField d).result (mapField d').result) :
    Agree (fun p p' => List.Forall₂ R p.1 p'.1 ∧ p.2 = p.1.filterMap (·.notice) ∧
      p'.2 = p'.1.filterMap (·.notice)) (s.mapped tagKey).result (s'.mapped tagKey).result := by
  rw [Subject.mapped, Subject.mapped, Logged.result_bind, Logged.result_bind]
  refine h.bind fun ds ds' _ _ hd => ?_
  rw [mapEach_result, mapEach_result]
  refine (mapM_agree (hd.imp hm)).map fun ms ms' hr => ⟨hr, ?_, ?_⟩
  · exact List.nil_append _
  · exact List.nil_append _

/-- Two subjects are mapped and written alike, with the same results or the same errors. -/
structure BuildAlike (s s' : Subject) (tagKey : String) : Prop where
  mapped : (s'.mapped tagKey).result = (s.mapped tagKey).result
  view : ∀ v, (s'.viewSchema tagKey v).result = (s.viewSchema tagKey v).result
  schema : ∀ views, (s'.schema tagKey views).result = (s.schema tagKey views).result

theorem buildAlike_of_descriptors_eq
    (h : (s'.descriptors tagKey).result = (s.descriptors tagKey).result) :
    BuildAlike s s' tagKey := by
  have hm : (s'.mapped tagKey).result = (s.mapped tagKey).result := by
    rw [Subject.mapped, Subject.mapped, Logged.result_bind, Logged.result_bind, h]
  refine ⟨hm, fun v => ?_, fun views => ?_⟩
  · rw [viewSchema_result, viewSchema_result, hm]
  · rw [schema_result, schema_result, hm]

end RecordSchema
