import RecordSchema.Proofs.Record.Replacement
import RecordSchema.Proofs.Schema.Comparison
import RecordSchema.Proofs.TypeExpr.Optional
import RecordSchema.Record.Bundled

/-! # Optional fields in a schema

Whether a field is optional shows nowhere in a schema, as long as the other declared types mean
what they did. Where a value is there, the optional field is written as the plain one; where it is
absent, the optional field is written as the plain one that holds the zero of its kind. A text that
looks at the declared types of its class can mean something else once one of them is made optional.
-/
namespace RecordSchema
variable {s s' : Subject} {tagKey name : String} {t t' : TypeExpr} {k : Kind}
  {hints hints' : Named TypeExpr} {f f' : Field} {c c' : RecordClass}

theorem hintOf_of_lookup (h : hints.lookup name = some t) : hintOf hints name = t := by
  rw [hintOf, h]
  rfl

theorem matches_of_hintsReplaced (hh : HintsReplaced name t t' hints hints') (ht : t.IsSimple)
    (ho : t.IsOptionalOf t') (hn : f'.name = f.name) (hm : f'.spec.metadata = f.spec.metadata) :
    f.Matches tagKey hints hints' f' := by
  have htag : f'.tag? tagKey = f.tag? tagKey := by
    rw [Field.tag?, Field.tag?, hm]
  have hu : (hintOf hints' f'.name).unwrapOptional = (hintOf hints f.name).unwrapOptional := by
    rw [hn]
    by_cases hf : f.name = name
    · rw [hf, hintOf_of_lookup hh.here, hintOf_of_lookup hh.here', ho.unwrapOptional_eq ht,
        TypeExpr.unwrapOptional_of_single ht.single]
    · rw [hintOf, hintOf, hh.elsewhere _ hf]
  exact ⟨hn, htag, by rw [TypeExpr.kind?, TypeExpr.kind?, hu],
    by rw [nativeTypeOf, nativeTypeOf, hu]⟩

theorem values_of_hintsReplaced (hh : HintsReplaced name t t' hints hints') (ht : t.IsSimple)
    (hk : t.kind? = some k) (ho : t.IsOptionalOf t') (hn : f'.name = f.name)
    (he : f.name ≠ name → s'.rawValue f' = s.rawValue f)
    (hr : f.name = name → s'.rawValue f' = s.rawValue f ∧ s.rawValue f ≠ .ok (some .null) ∨
      s'.rawValue f' = .ok (some .null) ∧ s.rawValue f = .ok (some k.zero)) :
    ValuesRelated (fun _ v v' => v' = v) s s' hints hints' f f' := by
  intro j hj
  rw [hn]
  by_cases hf : f.name = name
  · rw [hf, hintOf_of_lookup hh.here] at hj ⊢
    rw [hintOf_of_lookup hh.here', ho.isOptional_eq ht]
    cases hk.symm.trans hj
    obtain ⟨heq, hnull⟩ | ⟨hnull, hzero⟩ := hr hf
    · refine (agree_of_eq ?_).mono fun _ _ => Eq.symm
      cases hv : s.rawValue f with
      | error e => rw [fieldValue_of_error hv, fieldValue_of_error (heq.trans hv)]
      | ok o =>
        cases o with
        | none => rw [fieldValue_of_none hv, fieldValue_of_none (heq.trans hv)]
        | some v =>
          have hne : v ≠ .null := fun h => hnull (h ▸ hv)
          rw [fieldValue_of_ne_null hv hne, fieldValue_of_ne_null (heq.trans hv) hne]
    · rw [fieldValue_of_null hnull, fieldValue_of_ne_null hzero k.zero_ne_null]
      exact .yields rfl
  · have heq : hintOf hints' f.name = hintOf hints f.name := by
      rw [hintOf, hintOf, hh.elsewhere _ hf]
    rw [heq]
    exact (agree_of_eq (fieldValue_congr (he hf)).symm).mono fun _ _ => Eq.symm

/-- What holds of every two fields of one name. -/
def Fieldwise (c c' : RecordClass) (P : Field → Field → Prop) : Prop :=
  ∀ f ∈ c.fields, ∀ f' ∈ c'.fields, f'.name = f.name → P f f'

/-- A record whose field `name` is made optional is written as the plain record is, on the same
values if the optional field holds something, and otherwise on the zero in its place. -/
theorem optional_builds_alike (hr : TypeReplaced c c' name t t') (hk : t.kind? = some k)
    (hu : t.isUnion = false) (ho : t.IsOptionalOf t') (hc : s.record? = some c)
    (hc' : s'.record? = some c') (tagKey : String) :
    (Fieldwise c c' (fun f f' => s'.rawValue f' = s.rawValue f ∧
        (f.name = name → s.rawValue f ≠ .ok (some .null))) → BuildAlike s s' tagKey) ∧
    (Fieldwise c c' (fun f f' => (f.name ≠ name → s'.rawValue f' = s.rawValue f) ∧
        (f.name = name → s'.rawValue f' = .ok (some .null) ∧
          s.rawValue f = .ok (some k.zero))) →
      BuildAlike s s' tagKey) := by
  have ht : t.IsSimple := ⟨by simp [hk], hu⟩
  have hd : Fieldwise c c' (fun f f' => (f.name ≠ name → s'.rawValue f' = s.rawValue f) ∧
      (f.name = name → s'.rawValue f' = s.rawValue f ∧ s.rawValue f ≠ .ok (some .null) ∨
        s'.rawValue f' = .ok (some .null) ∧ s.rawValue f = .ok (some k.zero))) →
      BuildAlike s s' tagKey := by
    intro hv
    refine buildAlike_of_descriptors_eq (descriptors_eq
      (descriptors_agree hc hc' hr.hints_agree fun hints hints' _ _ hh => ?_))
    refine forall₂_imp_mem hr.fields fun f hf f' hf' hff => ?_
    obtain ⟨he, hr⟩ := hv f hf f' hf' hff.1
    exact ⟨matches_of_hintsReplaced hh ht ho hff.1 hff.2,
      values_of_hintsReplaced hh ht hk ho hff.1 he hr⟩
  constructor
  · intro h
    exact hd fun f hf f' hf' hn => ⟨fun _ => (h f hf f' hf' hn).1,
      fun he => .inl ⟨(h f hf f' hf' hn).1, (h f hf f' hf' hn).2 he⟩⟩
  · intro h
    exact hd fun f hf f' hf' hn => ⟨(h f hf f' hf' hn).1, fun he => .inr ((h f hf f' hf' hn).2 he)⟩

def meter : RecordClass :=
  ⟨recordLayer ⟨"meters", "Meter"⟩ false
    [taggedField "so_mark" (.width "UInt64") (.int 1), taggedField "label" .textType (.text "m")],
    [], ⟨"meters", TypeExpr.known, []⟩⟩

/-- The same record with the number made optional and absent by default. -/
def optionalMeter : RecordClass :=
  ⟨recordLayer ⟨"meters", "Meter"⟩ false
    [taggedField "so_mark" (.union [.width "UInt64", .noneType]) .null,
      taggedField "label" .textType (.text "m")],
    [], ⟨"meters", TypeExpr.known, []⟩⟩

theorem optionalMeter_replaced : TypeReplaced meter optionalMeter "so_mark" (.width "UInt64")
    (.union [.width "UInt64", .noneType]) := by
  have hwidth : ∀ p, (TypeExpr.width "UInt64").meaning p = .ok (.width "UInt64") := fun _ => rfl
  have htext : ∀ p, TypeExpr.textType.meaning p = .ok .textType := fun _ => rfl
  have hunion : ∀ p, (TypeExpr.union [.width "UInt64", .noneType]).meaning p =
      .ok (.union [.width "UInt64", .noneType]) := by
    intro p
    simp [TypeExpr.meaning, TypeExpr.resolve, TypeExpr.resolveAll, TypeExpr.sameArgs,
      TypeExpr.same, TypeExpr.width, TypeExpr.noneType, TypeExpr.builtin, TypeExpr.isClass]
  refine ⟨rfl, .cons ⟨rfl, rfl⟩ (.cons ⟨rfl, rfl⟩ .nil), .here
    (.here rfl rfl (hwidth _) (hunion _) (.cons ⟨rfl, ?_⟩ .nil) (by decide)) .nil⟩
  exact (htext _).trans (htext _).symm

theorem meter_builds_alike :
    BuildAlike (.instance ⟨meter, [("so_mark", .int 4294967296), ("label", .text "m")]⟩)
      (.instance ⟨optionalMeter, [("so_mark", .int 4294967296), ("label", .text "m")]⟩)
      defaultTagKey ∧
    BuildAlike (.instance ⟨meter, [("so_mark", .int 0), ("label", .text "m")]⟩)
      (.instance ⟨optionalMeter, [("so_mark", .null), ("label", .text "m")]⟩) defaultTagKey := by
  have hk : (TypeExpr.width "UInt64").kind? = some .int := by decide
  have ho : (TypeExpr.width "UInt64").IsOptionalOf (.union [.width "UInt64", .noneType]) :=
    .inl (TypeExpr.IsSimple.optionalOf_eq ⟨by decide, rfl⟩)
  have hcases : ∀ f ∈ meter.fields, f.name = "so_mark" ∨ f.name = "label" := by decide
  constructor
  · refine (optional_builds_alike optionalMeter_replaced hk rfl ho rfl rfl defaultTagKey).1 ?_
    intro f hf f' _ hn
    simp only [Subject.rawValue, Instance.attribute?, hn]
    rcases hcases f hf with h | h
    · simp [h]
    · simp [h, Named.lookup_cons]
  · refine (optional_builds_alike optionalMeter_replaced hk rfl ho rfl rfl defaultTagKey).2 ?_
    intro f hf f' _ hn
    simp only [Subject.rawValue, Instance.attribute?, hn]
    rcases hcases f hf with h | h
    · simp [h, Kind.zero]
    · simp [h, Named.lookup_cons]

/-- A record with a field that is declared with a text that tells whether the other is optional. -/
def watcher (t : TypeExpr) : RecordClass :=
  ⟨recordLayer ⟨"meters", "Watcher"⟩ false
    [taggedField "x" t (.int 1),
      taggedField "y" (.forward "int if __annotations__['x'] is int else str") (.int 1)],
    [], ⟨"meters", TypeExpr.known, []⟩⟩

theorem watcher_initial? (t : TypeExpr) {f : Field} (hf : f ∈ (watcher t).fields) :
    f.initial? = some (.int 1) := by
  obtain ⟨hf, -⟩ := List.mem_filter.mp hf
  rcases List.mem_cons.mp hf with rfl | hf
  · rfl
  · cases List.mem_singleton.mp hf
    rfl

theorem watcher_shows_optionality :
    TypeExpr.intType.kind? = some .int ∧ TypeExpr.intType.isUnion = false ∧
    TypeExpr.intType.IsOptionalOf (.union [.intType, .noneType]) ∧
    Fieldwise (watcher .intType) (watcher (.union [.intType, .noneType]))
      (fun f f' => f'.initial? = f.initial? ∧ f.initial? ≠ some .null) ∧
    ¬ BuildAlike (.cls (watcher .intType)) (.cls (watcher (.union [.intType, .noneType])))
      defaultTagKey := by
  have hk : TypeExpr.intType.kind? = some .int := by decide
  refine ⟨hk, rfl, .inl (TypeExpr.IsSimple.optionalOf_eq ⟨by rw [hk]; rfl, rfl⟩), ?_, fun h => ?_⟩
  · intro f hf f' hf' _
    rw [watcher_initial? _ hf, watcher_initial? _ hf']
    exact ⟨rfl, nofun⟩
  · have hne : ((Subject.cls (watcher (.union [.intType, .noneType]))).schema defaultTagKey
        [.defaultInput]).result.toOption.map (·.text) ≠
          ((Subject.cls (watcher .intType)).schema defaultTagKey
            [.defaultInput]).result.toOption.map (·.text) := by
      decide +kernel
    exact hne (by rw [h.schema])

end RecordSchema
