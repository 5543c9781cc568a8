import RecordSchema.Proofs.Record.FieldTable
import RecordSchema.Proofs.Schema.Comparison

/-! # A record and its default instance

The default instance of a record class is made with the zero of its kind for every field that must
be given a value, and with nothing else; the fields that the initializer does not know are then set
in the same way. It is walked as the class itself is, and so it has the same schemas.
-/
namespace RecordSchema
variable {c : RecordClass} {hints : Named TypeExpr} {f : Field}

def zeroOf? (hints : Named TypeExpr) (f : Field) : Option Value :=
  (hintOf hints f.name).kind?.map Kind.zero

/-- Values for fields, each under the name of its field. -/
def byName (fs : List Field) (value? : Field → Option Value) : Named Value :=
  fs.filterMap fun f => (value? f).map fun v => (f.name, v)

namespace RecordClass

/-- The zeros of the fields that the initializer must be given values for. -/
def zeros (c : RecordClass) (hints : Named TypeExpr) : Named Value :=
  byName c.fields fun f => if f.spec.init && f.initial?.isNone then zeroOf? hints f else none

/-- The values of the fields that the initializer does not know: their own ones, or else zeros. -/
def passedOver (c : RecordClass) (hints : Named TypeExpr) : Named Value :=
  byName c.fields fun f => if f.spec.init then none else f.initial? <|> zeroOf? hints f

end RecordClass

/-- Values for variables that the initializer takes beside the fields: for all that need one, and
for nothing else. -/
structure CompletesFields (c : RecordClass) (given : Named Value) : Prop where
  only : ∀ e ∈ given, ∃ f ∈ c.parameters, f.role = .initVariable ∧ f.name = e.1
  all : ∀ f ∈ c.parameters, f.role = .initVariable → f.initial? = none →
    (given.lookup f.name).isSome

theorem lookup_byName {fs : List Field} (hn : (fs.map (·.name)).Nodup) (hf : f ∈ fs)
    (value? : Field → Option Value) : (byName fs value?).lookup f.name = value? f := by
  induction fs with
  | nil => cases hf
  | cons g fs ih =>
    obtain ⟨hg, hn⟩ := List.nodup_cons.mp hn
    rw [byName, List.filterMap_cons]
    rcases List.mem_cons.mp hf with rfl | hf
    · cases hv : value? f with
      | some v => exact List.lookup_cons_self
      | none =>
        refine List.lookup_eq_none_iff.mpr fun e he => ?_
        obtain ⟨g, hgm, he⟩ := List.mem_filterMap.mp he
        obtain ⟨v, -, rfl⟩ := Option.map_eq_some_iff.mp he
        have hne : f.name ≠ g.name := fun h => hg (List.mem_map.mpr ⟨g, hgm, h.symm⟩)
        simpa using hne
    · have hne : f.name ≠ g.name := fun h => hg (List.mem_map.mpr ⟨f, hf, h⟩)
      cases hv : value? g with
      | none => exact ih hn hf
      | some v =>
        rw [Option.map_some, List.lookup_cons, beq_false_of_ne hne]
        exact ih hn hf

theorem reverse_byName (fs : List Field) (value? : Field → Option Value) :
    (byName fs value?).reverse = byName fs.reverse value? :=
  List.filterMap_reverse.symm

/-- What is set on an instance is found there, and what is not set is as before. -/
theorem lookup_assign {i : Instance} {fs : List Field} (hn : (fs.map (·.name)).Nodup) (hf : f ∈ fs)
    (value? : Field → Option Value) :
    (i.assign (byName fs value?)).values.lookup f.name =
      (value? f).or (i.values.lookup f.name) := by
  have hr : (fs.reverse.map (·.name)).Nodup := by
    rw [List.map_reverse]
    exact List.nodup_reverse.mpr hn
  rw [Instance.assign, Named.lookup_putAll, reverse_byName,
    lookup_byName hr (List.mem_reverse.mpr hf)]

section Made
variable {given : Named Value}

theorem role_eq_field (hf : f ∈ c.fields) : f.role = .field :=
  beq_iff_eq.mp (List.mem_filter.mp hf).2

theorem mem_parameters_of_mem_fields (hf : f ∈ c.fields) (hi : f.spec.init) :
    f ∈ c.parameters :=
  List.mem_filter.mpr
    ⟨mem_entries_of_mem_fields hf, by simp [Field.isParameter, role_eq_field hf, hi]⟩

theorem role_of_mem_parameters (hf : f ∈ c.parameters) :
    f ∈ c.fields ∧ f.spec.init ∨ f.role = .initVariable := by
  obtain ⟨hm, hp⟩ := List.mem_filter.mp hf
  obtain ⟨hr, hi⟩ := Bool.and_eq_true_iff.mp hp
  cases h : f.role with
  | field => exact .inl ⟨List.mem_filter.mpr ⟨hm, by simp [h]⟩, hi⟩
  | classVariable => rw [h] at hr; cases hr
  | initVariable => exact .inr rfl

/-- No variable that is given beside the fields has the name of a field. -/
theorem lookup_given (ht : HasFieldTables c.lineage) (hg : CompletesFields c given)
    (hf : f ∈ c.fields) : given.lookup f.name = none := by
  refine List.lookup_eq_none_iff.mpr fun e he => ?_
  obtain ⟨g, hgm, hr, hge⟩ := hg.only e he
  have hne : f.name ≠ e.1 := by
    intro h
    have hfg : f = g := List.inj_on_of_nodup_map (entries_nodup ht) (mem_entries_of_mem_fields hf)
      (mem_entries_of_mem_parameters hgm) (h.trans hge.symm)
    rw [← hfg, role_eq_field hf] at hr
    cases hr
  simpa using hne

theorem lookup_defaults (ht : HasFieldTables c.lineage) (hg : CompletesFields c given)
    (hf : f ∈ c.fields) : (c.zeros hints ++ given).lookup f.name =
      if f.spec.init && f.initial?.isNone then zeroOf? hints f else none := by
  rw [List.lookup_append, lookup_given ht hg hf, Option.or_none, RecordClass.zeros,
    lookup_byName (fields_nodup ht) hf]

/-- An instance is made if all that is given is taken and all that needs a value is given one. -/
theorem make_of_complete (hc : c.table?.isSome)
    (hk : ∀ e ∈ given, ∃ f ∈ c.parameters, f.name = e.1)
    (hi : ∀ f ∈ c.parameters, f.initial? = none → (given.lookup f.name).isSome) :
    c.make given = .ok ⟨c, byName c.fields (·.kept? given)⟩ := by
  have hnone : ¬ c.table?.isNone := by
    rw [Option.isNone_iff_eq_none, ← ne_eq, Option.ne_none_iff_isSome]
    exact hc
  have hknown : given.find? (fun g => c.parameters.all fun f => f.name != g.1) = none := by
    refine List.find?_eq_none.mpr fun e he h => ?_
    obtain ⟨f, hf, hfe⟩ := hk e he
    have hne : f.name ≠ e.1 := by simpa using List.all_eq_true.mp h f hf
    exact hne hfe
  have hgiven : c.parameters.filter (fun f =>
      (given.lookup f.name).isNone && f.initial?.isNone) = [] := by
    refine List.filter_eq_nil_iff.mpr fun f hf h => ?_
    obtain ⟨hl, hn⟩ := Bool.and_eq_true_iff.mp h
    have hs := hi f hf (Option.isNone_iff_eq_none.mp hn)
    rw [Option.isNone_iff_eq_none.mp hl] at hs
    cases hs
  simp only [RecordClass.make, if_neg hnone, hknown, hgiven, List.isEmpty_nil, if_true]
  rfl

theorem mem_parameters_of_mem_defaults (hg : CompletesFields c given) {e : String × Value}
    (he : e ∈ c.zeros hints ++ given) : ∃ f ∈ c.parameters, f.name = e.1 := by
  rcases List.mem_append.mp he with he | he
  · obtain ⟨f, hf, he⟩ := List.mem_filterMap.mp he
    obtain ⟨v, hv, rfl⟩ := Option.map_eq_some_iff.mp he
    obtain ⟨h, -⟩ := Option.ite_none_right_eq_some.mp hv
    exact ⟨f, mem_parameters_of_mem_fields hf (Bool.and_eq_true_iff.mp h).1, rfl⟩
  · obtain ⟨f, hf, -, hfe⟩ := hg.only e he
    exact ⟨f, hf, hfe⟩

theorem isSome_lookup_defaults (ht : HasFieldTables c.lineage) (hg : CompletesFields c given)
    (hk : ∀ f ∈ c.fields, ((hintOf hints f.name).kind?).isSome) (hf : f ∈ c.parameters)
    (hi : f.initial? = none) : ((c.zeros hints ++ given).lookup f.name).isSome := by
  rcases role_of_mem_parameters hf with ⟨hff, hinit⟩ | hr
  · rw [lookup_defaults ht hg hff, hinit, hi]
    simpa [zeroOf?] using hk f hff
  · rw [List.lookup_append, Option.isSome_or, hg.all f hf hr hi, Bool.or_true]

/-- The default instance can be made, and once the other fields are set every field has its own
value there or a zero. -/
theorem make_defaults (hc : c.table?.isSome) (ht : HasFieldTables c.lineage)
    (hg : CompletesFields c given)
    (hk : ∀ f ∈ c.fields, ((hintOf hints f.name).kind?).isSome) :
    ∃ i, c.make (c.zeros hints ++ given) = .ok i ∧ i.cls = c ∧
      ∀ f ∈ c.fields, ∀ k, (hintOf hints f.name).kind? = some k →
        (i.assign (c.passedOver hints)).attribute? f.name = some (f.initial?.getD k.zero) := by
  have hm := make_of_complete hc (fun e he => mem_parameters_of_mem_defaults hg he)
    fun f hf => isSome_lookup_defaults ht hg hk hf
  refine ⟨_, hm, rfl, fun f hf k hk => ?_⟩
  rw [Instance.attribute?, RecordClass.passedOver, lookup_assign (fields_nodup ht) hf,
    lookup_byName (fields_nodup ht) hf, Field.kept?, lookup_defaults ht hg hf, zeroOf?, hk]
  cases f.spec.init <;> cases f.initial? <;> rfl

end Made

theorem fieldValue_default {i : Instance} {k : Kind} {optional : Bool}
    (h : i.attribute? f.name = some (f.initial?.getD k.zero)) :
    (Subject.instance i).fieldValue f k optional = (Subject.cls c).fieldValue f k optional := by
  have hi : (Subject.instance i).rawValue f = .ok (some (f.initial?.getD k.zero)) := by
    rw [Subject.rawValue, h]
  have hc : (Subject.cls c).rawValue f = .ok f.initial? := rawValue_of_class
  cases hf : f.initial? with
  | some v =>
    rw [hf] at hi hc
    exact fieldValue_congr (hi.trans hc.symm)
  | none =>
    rw [hf] at hi hc
    rw [fieldValue_of_none hc]
    exact fieldValue_of_ne_null hi k.zero_ne_null

/-- A default instance is walked, mapped and written as its class is. -/
theorem default_instance_builds_alike (c : RecordClass) (tagKey : String)
    (ht : HasFieldTables c.lineage) {ds : List Descriptor}
    (hw : ((Subject.cls c).descriptors tagKey).result = .ok ds) :
    ∃ hints, c.hints = .ok hints ∧ ∀ given, CompletesFields c given →
      ∃ i, c.make (c.zeros hints ++ given) = .ok i ∧
        ((Subject.instance (i.assign (c.passedOver hints))).descriptors tagKey).result = .ok ds ∧
        BuildAlike (.cls c) (.instance (i.assign (c.passedOver hints))) tagKey := by
  obtain ⟨_, hints, hc, hh, hd⟩ := descriptors_eq_ok_iff.mp hw
  obtain ⟨hcc, htable⟩ := Option.filter_eq_some_iff.mp hc
  cases hcc
  refine ⟨hints, hh, fun given hg => ?_⟩
  have hk : ∀ f ∈ c.fields, ((hintOf hints f.name).kind?).isSome := by
    intro f hf
    obtain ⟨d, -, hfd⟩ := exists_mem_left hd.flip hf
    exact (Describes.readable hfd).2
  obtain ⟨i, hi, rfl, hv⟩ := make_defaults htable ht hg hk
  have hci : (Subject.instance (i.assign (i.cls.passedOver hints))).record? = some i.cls := hc
  have heq : ((Subject.instance (i.assign (i.cls.passedOver hints))).descriptors tagKey).result =
      ((Subject.cls i.cls).descriptors tagKey).result := by
    refine descriptors_eq (descriptors_agree hc hci (agree_of_eq rfl) ?_)
    intro _ _ h h' hhints
    cases hhints
    cases hh.symm.trans h
    exact List.forall₂_same.mpr fun f hf => ⟨⟨rfl, rfl, rfl, rfl⟩, fun k hk =>
      (agree_of_eq (fieldValue_default (hv f hf k hk)).symm).mono fun _ _ h => h.symm⟩
  exact ⟨i, hi, heq.trans hw, buildAlike_of_descriptors_eq heq⟩

/-- A record with a factory, with an absent default, with a field that has no value of its own, with
one that its initializer does not know and with a variable that only the initializer takes. -/
def dial : RecordClass :=
  ⟨recordLayer ⟨"meters", "Dial"⟩ true
    [⟨"hosts", textsType,
        some { metadata := [(defaultTagKey, .text "hosts")], factory := some (texts ["a"]) }⟩,
      taggedField "level" (.union [.width "UInt8", .noneType]) .null,
      ⟨"floor", .width "Int64", some { metadata := [(defaultTagKey, .text "floor")] }⟩,
      ⟨"turns", .width "Int64",
        some { metadata := [(defaultTagKey, .text "turns")], init := false }⟩,
      ⟨"unit", .initVariable .textType, none⟩],
    [], ⟨"meters", TypeExpr.known, []⟩⟩

def dialHints : Named TypeExpr :=
  [("hosts", textsType), ("level", .union [.width "UInt8", .noneType]), ("floor", .width "Int64"),
    ("turns", .width "Int64"), ("unit", .initVariable .textType)]

theorem dial_hasFieldTables : HasFieldTables dial.lineage := by
  intro l hl t ht
  cases List.mem_singleton.mp hl
  cases ht
  exact declared_isFieldTable (by decide)

theorem dial_walked : ∃ ds, ((Subject.cls dial).descriptors defaultTagKey).result = .ok ds := by
  have hh : dial.hints = .ok dialHints := by cbv
  have hr : ∀ f ∈ dial.fields, f.Readable defaultTagKey dialHints := by
    unfold Field.Readable
    decide
  obtain ⟨ds, hd⟩ := walked_of_readable hr fun f _ => ⟨_, rawValue_of_class (c := dial)⟩
  exact ⟨ds, descriptors_eq_ok_iff.mpr ⟨dial, _, rfl, hh, hd⟩⟩

theorem dial_builds_alike :
    ∃ hints, dial.hints = .ok hints ∧ CompletesFields dial [("unit", .text "m")] ∧
      ∃ i, dial.make (dial.zeros hints ++ [("unit", .text "m")]) = .ok i ∧
        BuildAlike (.cls dial) (.instance (i.assign (dial.passedOver hints))) defaultTagKey := by
  have hg : CompletesFields dial [("unit", .text "m")] := by
    constructor
    · decide
    · decide
  obtain ⟨ds, hw⟩ := dial_walked
  obtain ⟨hints, hh, hd⟩ :=
    default_instance_builds_alike dial defaultTagKey dial_hasFieldTables hw
  obtain ⟨i, hi, -, hs⟩ := hd _ hg
  exact ⟨hints, hh, hg, i, hi, hs⟩

end RecordSchema
