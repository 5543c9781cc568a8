import RecordSchema.Proofs.Schema.Fields
import RecordSchema.Proofs.Settings.Warnings

/-! # The warnings of a mapping

The walk over a record gives no warning. The mapping gives one for each whole number that the schema
cannot hold: a record in the log and a notice, which name the same field and the same native type.
-/
namespace RecordSchema
variable {s : Subject} {tagKey : String} {hints : Named TypeExpr} {d : Descriptor}

/-- The fields whose numbers are out of range, each with its number, in field order. -/
def overflowing (ds : List Descriptor) : List (Descriptor × Int) :=
  ds.filterMap fun d => d.overflow?.map fun n => (d, n)

/-- What is logged about a number out of range. -/
def Descriptor.alarm (d : Descriptor) : Log.Record := ⟨Log.warning, overflowRecord d⟩

theorem overflowing_cons_none (h : d.overflow? = none) (ds : List Descriptor) :
    overflowing (d :: ds) = overflowing ds :=
  List.filterMap_cons_none (by rw [h]; rfl)

theorem overflowing_cons_some {n : Int} (h : d.overflow? = some n) (ds : List Descriptor) :
    overflowing (d :: ds) = (d, n) :: overflowing ds :=
  List.filterMap_cons_some (by rw [h]; rfl)

theorem kindOf_warnings (t : TypeExpr) : (kindOf t).warnings = [] := by
  unfold kindOf
  cases t.kind? with
  | some k => rfl
  | none =>
    exact Logged.warnings_bind_eq_nil rfl fun _ =>
      Logged.warnings_bind_eq_nil (Logged.warnings_write (by decide) _) fun _ => rfl

theorem describe_warnings (s : Subject) (tagKey : String) (hints : Named TypeExpr) (f : Field) :
    (describe s tagKey hints f).warnings = [] := by
  unfold describe
  cases f.tag? tagKey with
  | none => rfl
  | some tag =>
    refine Logged.warnings_bind_eq_nil rfl fun _ =>
      Logged.warnings_bind_eq_nil (kindOf_warnings _) fun k => ?_
    cases k with
    | none => rfl
    | some k =>
      exact Logged.warnings_bind_eq_nil rfl fun _ =>
        Logged.warnings_bind_eq_nil (Logged.warnings_write (by decide) _) fun _ => rfl

theorem describeAll_warnings (s : Subject) (tagKey : String) (hints : Named TypeExpr)
    (fs : List Field) : (describeAll s tagKey hints fs).warnings = [] := by
  induction fs with
  | nil => rfl
  | cons f fs ih =>
    exact Logged.warnings_bind_eq_nil (describe_warnings s tagKey hints f) fun _ =>
      Logged.warnings_bind_eq_nil ih fun _ => rfl

theorem descriptors_warnings (s : Subject) (tagKey : String) :
    (s.descriptors tagKey).warnings = [] := by
  unfold Subject.descriptors
  cases s.record? with
  | none => rfl
  | some c =>
    exact Logged.warnings_bind_eq_nil rfl fun hints =>
      Logged.warnings_bind_eq_nil (describeAll_warnings s tagKey hints c.fields) fun _ =>
        Logged.warnings_bind_eq_nil (Logged.warnings_write (by decide) _) fun _ => rfl

/-- One field is worth a warning if its number is out of range. -/
theorem mapField_warnings (h : d.Widens) (hs : d.Short) :
    (mapField d).warnings = (overflowing [d]).map fun p => p.1.alarm := by
  by_cases hk : d.kind = .int
  · obtain ⟨n, hn⟩ := Option.isSome_iff_exists.mp (h hk)
    have hw : (Logged.of d.widen).result = .ok n := by
      rw [Logged.result_of, Descriptor.widen, hn]
    unfold mapField
    rw [hk]
    show (Logged.of d.widen >>= _).warnings = _
    rw [Logged.warnings_bind hw]
    cases hf : fitsInt n with
    | true =>
      rw [overflowing_cons_none (Descriptor.overflow?_of_fits hk hn hf)]
      rfl
    | false =>
      have hd : (Logged.of (SchemaError.written (Text.whole n))).result = .ok (toString n) := by
        rw [Text.whole_of_short (hs hk n hn)]
        rfl
      rw [overflowing_cons_some (Descriptor.overflow?_of_not_fits hk hn hf), if_neg (by decide),
        Logged.warnings_bind (Logged.result_write ..), Logged.warnings_bind hd]
      rfl
  · have ho : d.overflow? = none := if_neg hk
    rw [overflowing_cons_none ho]
    unfold mapField
    cases hd : d.kind with
    | int => exact absurd hd hk
    | string => rfl
    | boolean => rfl
    | duration => rfl
    | stringList => rfl

theorem mapEach_warnings {ds : List Descriptor} (h : ∀ d ∈ ds, d.Widens)
    (hl : ∀ d ∈ ds, d.Short) (ns : List Notice) :
    (mapEach ns ds).warnings = (overflowing ds).map fun p => p.1.alarm := by
  induction ds generalizing ns with
  | nil => rfl
  | cons d ds ih =>
    obtain ⟨hd, hds⟩ := List.forall_mem_cons.mp h
    obtain ⟨hld, hlds⟩ := List.forall_mem_cons.mp hl
    have hs : overflowing (d :: ds) = overflowing [d] ++ overflowing ds :=
      List.filterMap_append (l := [d])
    have hr : ∀ ns, (mapEach ns ds >>= fun p => pure (d.mapped :: p.1, p.2)).warnings =
        (overflowing ds).map fun p => p.1.alarm := by
      intro ns
      rw [Logged.warnings_bind (mapEach_of_widens hds hlds ns), ih hds hlds]
      exact List.append_nil _
    rw [mapEach, Logged.warnings_bind (mapField_of_widens hd hld), mapField_warnings hd hld, hs,
      List.map_append]
    refine congrArg _ ?_
    -- adding the notice is traced, which is no warning
    cases d.mapped.notice with
    | none => exact (Logged.warnings_bind (Logged.result_pure ns) _).trans (hr ns)
    | some n => exact (Logged.warnings_bind (Notice.add_result ns n) _).trans (hr (ns ++ [n]))

theorem mapped_warnings {ds : List Descriptor} (h : (s.descriptors tagKey).result = .ok ds)
    (hw : ∀ d ∈ ds, d.Widens) (hl : ∀ d ∈ ds, d.Short) : (s.mapped tagKey).warnings =
      (overflowing ds).map fun p => p.1.alarm := by
  rw [Subject.mapped, Logged.warnings_bind h, descriptors_warnings, mapEach_warnings hw hl]
  rfl

theorem filterMap_remark? (ds : List Descriptor) :
    ds.filterMap Descriptor.remark? =
      (overflowing ds).map fun p => overflowNotice p.1 (toString p.2) := by
  rw [overflowing, List.map_filterMap]
  refine List.filterMap_congr fun d _ => ?_
  rw [Descriptor.remark?, Option.map_map]
  rfl

/-- What the building of a schema logs as warnings, and its notices: one of each for every field
whose number is out of range, whatever the views are. -/
theorem schema_warnings {views : List View} {schema : Schema}
    (h : (s.schema tagKey views).result = .ok schema) :
    ∃ ds, (s.descriptors tagKey).result = .ok ds ∧
      (s.schema tagKey views).warnings = (overflowing ds).map (fun p => p.1.alarm) ∧
      schema.notices = (overflowing ds).map fun p => overflowNotice p.1 (toString p.2) := by
  rw [schema_result] at h
  cases hm : (s.mapped tagKey).result with
  | error e =>
    rw [hm] at h
    cases h
  | ok p =>
    obtain ⟨ms, ns⟩ := p
    rw [hm] at h
    cases h
    obtain ⟨c, hints, ds, hc, hh, hd, hw, hl, rfl, rfl⟩ := mapped_eq_ok_iff.mp hm
    have hds := descriptors_eq_ok_iff.mpr ⟨c, hints, hc, hh, hd⟩
    refine ⟨ds, hds, ?_, filterMap_remark? ds⟩
    rw [Subject.schema, Logged.warnings_bind hm, mapped_warnings hds hw hl]
    refine (congrArg _ ?_).trans (List.append_nil _)
    exact Logged.warnings_bind_eq_nil (Logged.warnings_write (by decide) _) fun _ => rfl

end RecordSchema
