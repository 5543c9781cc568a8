import RecordSchema.Proofs.Schema.Overflow
import RecordSchema.Schema.Build

/-! # The mapped fields of a record

The walk over all fields is complete before any value is looked at. Every schema of a record, with
whatever views, is made from the same mapped fields and notices.
-/
namespace RecordSchema
variable {s : Subject} {tagKey : String} {hints : Named TypeExpr}

/-- The whole number that a field of that kind stands for. -/
def Subject.number? (s : Subject) (hints : Named TypeExpr) (f : Field) : Option Int :=
  match s.fieldValue f .int (hintOf hints f.name).isOptional with
  | .ok v => v.toInt?
  | .error _ => none

/-- A field whose type is a whole number holds what stands for one. -/
def Subject.Widens (s : Subject) (hints : Named TypeExpr) (f : Field) : Prop :=
  (hintOf hints f.name).kind? = some .int → (s.number? hints f).isSome

/-- A field whose type is a whole number holds none that is too long to be written. -/
def Subject.IsShort (s : Subject) (hints : Named TypeExpr) (f : Field) : Prop :=
  (hintOf hints f.name).kind? = some .int →
    ∀ n ∈ s.number? hints f, Text.isTooLong n = false

theorem Describes.number_eq {f : Field} {d : Descriptor} (h : Describes s tagKey hints f d)
    (hk : d.kind = .int) : s.number? hints f = d.value.toInt? := by
  have hv := h.value_eq
  rw [hk] at hv
  rw [Subject.number?, hv]

theorem Describes.widens_iff {f : Field} {d : Descriptor} (h : Describes s tagKey hints f d) :
    d.Widens ↔ s.Widens hints f := by
  rw [Descriptor.Widens, Subject.Widens, h.kind_eq, Option.some_inj]
  refine forall_congr' fun hk => ?_
  rw [h.number_eq hk]

theorem Describes.short_iff {f : Field} {d : Descriptor} (h : Describes s tagKey hints f d) :
    d.Short ↔ s.IsShort hints f := by
  rw [Descriptor.Short, Subject.IsShort, h.kind_eq, Option.some_inj]
  refine forall_congr' fun hk => ?_
  rw [h.number_eq hk]
  rfl

/-- A descriptor can be mapped exactly if its field holds a number that can be written. -/
theorem Describes.maps_iff {f : Field} {d : Descriptor} (h : Describes s tagKey hints f d) :
    d.Widens ∧ d.Short ↔ s.Widens hints f ∧ s.IsShort hints f :=
  and_congr h.widens_iff h.short_iff

/-- One field adds itself and its notice, if it has one. -/
theorem mapEach_cons_of_ok {d : Descriptor} {m : MappedField} (hm : (mapField d).result = .ok m)
    (ns : List Notice) (ds : List Descriptor) :
    (mapEach ns (d :: ds)).result =
      (mapEach (ns ++ m.notice.toList) ds).result.map fun p => (m :: p.1, p.2) := by
  simp only [mapEach, Logged.result_bind, hm, ok_bind]
  cases m.notice with
  | none =>
    simp only [Logged.result_bind, Logged.result_pure, ok_bind, Option.toList_none,
      List.append_nil]
    rfl
  | some n =>
    simp only [Logged.result_bind, Notice.add_result, ok_bind, Option.toList_some]
    rfl

/-- The notices of the fields follow those collected before, in field order. -/
theorem mapEach_result (ns : List Notice) (ds : List Descriptor) :
    (mapEach ns ds).result = (ds.mapM fun d => (mapField d).result).map fun ms =>
      (ms, ns ++ ms.filterMap (·.notice)) := by
  induction ds generalizing ns with
  | nil => simp [mapEach, pure, Except.pure, Except.map, Logged.ok]
  | cons d ds ih =>
    cases hm : (mapField d).result with
    | error e =>
      rw [mapM_cons_of_error (f := fun d => (mapField d).result) hm]
      simp only [mapEach, Logged.result_bind, hm]
      rfl
    | ok m =>
      rw [mapEach_cons_of_ok hm, mapM_cons_of_ok (f := fun d => (mapField d).result) hm, ih]
      cases ds.mapM fun d => (mapField d).result with
      | error e => rfl
      | ok ms =>
        have hf : (m :: ms).filterMap (·.notice) = m.notice.toList ++ ms.filterMap (·.notice) := by
          cases hn : m.notice <;> simp [hn]
        simp only [Except.map, hf, List.append_assoc]

theorem mapEach_of_widens {ds : List Descriptor} (h : ∀ d ∈ ds, d.Widens)
    (hs : ∀ d ∈ ds, d.Short) (ns : List Notice) :
    (mapEach ns ds).result =
      .ok (ds.map Descriptor.mapped, ns ++ ds.filterMap Descriptor.remark?) := by
  have hm : (ds.mapM fun d => (mapField d).result) = .ok (ds.map Descriptor.mapped) := by
    rw [mapM_eq_ok_iff, List.forall₂_map_right_iff, List.forall₂_same]
    exact fun d hd => mapField_of_widens (h d hd) (hs d hd)
  rw [mapEach_result, hm]
  simp only [Except.map, List.filterMap_map]
  rfl

/-- The first field that cannot be mapped stops the mapping. -/
theorem mapEach_eq_error_iff {ns : List Notice} {ds : List Descriptor} {e : SchemaError} :
    (mapEach ns ds).result = .error e ↔ ∃ before d after, ds = before ++ d :: after ∧
      (∀ b ∈ before, b.Widens ∧ b.Short) ∧ (mapField d).result = .error e := by
  have hok : ∀ b : Descriptor, (∃ m, (mapField b).result = .ok m) ↔ b.Widens ∧ b.Short := fun b =>
    ⟨fun ⟨m, hm⟩ => ⟨(mapField_eq_ok_iff.mp hm).1, (mapField_eq_ok_iff.mp hm).2.1⟩,
      fun h => ⟨b.mapped, mapField_of_widens h.1 h.2⟩⟩
  simp only [mapEach_result, map_eq_error_iff, mapM_eq_error_iff, hok]

theorem mapEach_eq_ok_iff {ns ns' : List Notice} {ds : List Descriptor} {ms : List MappedField} :
    (mapEach ns ds).result = .ok (ms, ns') ↔ (∀ d ∈ ds, d.Widens) ∧ (∀ d ∈ ds, d.Short) ∧
      ms = ds.map Descriptor.mapped ∧ ns' = ns ++ ds.filterMap Descriptor.remark? := by
  constructor
  · intro h
    have hw : ∀ d ∈ ds, d.Widens ∧ d.Short := by
      rw [mapEach_result] at h
      cases hm : ds.mapM fun d => (mapField d).result with
      | error e => rw [hm] at h; cases h
      | ok ms =>
        intro d hd
        obtain ⟨m, -, hdm⟩ := exists_mem_left (mapM_eq_ok_iff.mp hm).flip hd
        obtain ⟨hw, hs, -⟩ := mapField_eq_ok_iff.mp hdm
        exact ⟨hw, hs⟩
    rw [mapEach_of_widens (fun d hd => (hw d hd).1) fun d hd => (hw d hd).2] at h
    cases h
    exact ⟨fun d hd => (hw d hd).1, fun d hd => (hw d hd).2, rfl, rfl⟩
  · rintro ⟨hw, hs, rfl, rfl⟩
    exact mapEach_of_widens hw hs ns

theorem mapped_of_plain (hs : s.record? = none) :
    (s.mapped tagKey).result = .error s.notARecord := by
  rw [Subject.mapped, Logged.result_bind, descriptors_of_plain hs]
  rfl

theorem mapped_of_unresolved {c : RecordClass} {e : SchemaError} (hc : s.record? = some c)
    (he : c.hints = .error e) : (s.mapped tagKey).result = .error e := by
  rw [Subject.mapped, Logged.result_bind, descriptors_of_unresolved hc he]
  rfl

theorem mapped_of_hints {c : RecordClass} (hc : s.record? = some c) (hh : c.hints = .ok hints) :
    (s.mapped tagKey).result =
      (c.fields.mapM fun f => (describe s tagKey hints f).result) >>= fun ds =>
        (mapEach [] ds).result := by
  rw [Subject.mapped, Logged.result_bind, descriptors_of_hints hc hh]

/-- What the mapping of a record yields, field by field. -/
theorem mapped_eq_ok_iff {ms : List MappedField} {ns : List Notice} :
    (s.mapped tagKey).result = .ok (ms, ns) ↔ ∃ c hints ds, s.record? = some c ∧
      c.hints = .ok hints ∧ List.Forall₂ (Describes s tagKey hints) c.fields ds ∧
      (∀ d ∈ ds, d.Widens) ∧ (∀ d ∈ ds, d.Short) ∧ ms = ds.map Descriptor.mapped ∧
      ns = ds.filterMap Descriptor.remark? := by
  constructor
  · intro h
    cases hc : s.record? with
    | none => rw [mapped_of_plain hc] at h; cases h
    | some c =>
      cases hh : c.hints with
      | error e => rw [mapped_of_unresolved hc hh] at h; cases h
      | ok hints =>
        rw [mapped_of_hints hc hh] at h
        obtain ⟨ds, hds, h⟩ := bind_eq_ok_iff.mp h
        exact ⟨c, hints, ds, rfl, hh, mapM_describe_eq_ok_iff.mp hds, mapEach_eq_ok_iff.mp h⟩
  · rintro ⟨c, hints, ds, hc, hh, hd, h⟩
    rw [mapped_of_hints hc hh, mapM_describe_eq_ok_iff.mpr hd, ok_bind, mapEach_eq_ok_iff]
    exact h

theorem schema_result (views : List View) :
    (s.schema tagKey views).result =
      (s.mapped tagKey).result.map fun p => ⟨schemaText p.1 views, p.2⟩ := by
  simp only [Subject.schema, Logged.result_bind]
  cases (s.mapped tagKey).result <;> rfl

theorem viewSchema_result (v : View) :
    (s.viewSchema tagKey v).result =
      (s.mapped tagKey).result.map fun p => ⟨(blockOf p.1 v).text, p.2⟩ := by
  simp only [Subject.viewSchema, Logged.result_bind]
  cases (s.mapped tagKey).result <;> rfl

/-- Writing fails only where mapping does, and in the same way. -/
theorem schema_eq_error_iff {views : List View} {e : SchemaError} :
    (s.schema tagKey views).result = .error e ↔ (s.mapped tagKey).result = .error e := by
  rw [schema_result, map_eq_error_iff]

theorem viewSchema_eq_error_iff {v : View} {e : SchemaError} :
    (s.viewSchema tagKey v).result = .error e ↔ (s.mapped tagKey).result = .error e := by
  rw [viewSchema_result, map_eq_error_iff]

end RecordSchema
