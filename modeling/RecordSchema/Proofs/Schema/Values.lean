import RecordSchema.Proofs.Schema.Comparison
import RecordSchema.Proofs.Schema.Rejection

/-! # Values in a schema

Of all the values of a record, mapping looks at its whole numbers only, and of a whole number a
schema shows whether it is in range. Other values may be anything, but an instance must have them.
Metadata under other keys than that of the tags shows only where a declared type is a text that looks
at it.
-/
namespace RecordSchema
variable {s s' : Subject} {tagKey : String} {hints : Named TypeExpr} {f f' : Field}
  {c c' : RecordClass} {d d' : Descriptor}

/-- Two fields of one name that have the same metadata under one key. -/
def Field.AlikeUnder (key : String) (f f' : Field) : Prop :=
  f'.name = f.name ∧ f'.spec.metadata.get? key = f.spec.metadata.get? key

/-- The classes declare the same types, and their fields are alike under one key. -/
structure AlikeUnder (key : String) (c c' : RecordClass) : Prop where
  hints_eq : c'.hints = c.hints
  fields : List.Forall₂ (Field.AlikeUnder key) c.fields c'.fields

theorem AlikeUnder.refl (key : String) (c : RecordClass) : AlikeUnder key c c :=
  ⟨rfl, List.forall₂_same.mpr fun _ _ => ⟨rfl, rfl⟩⟩

theorem AlikeUnder.matches (h : AlikeUnder tagKey c c') (hints : Named TypeExpr) :
    List.Forall₂ (fun f f' => f.Matches tagKey hints hints f') c.fields c'.fields := by
  refine h.fields.imp fun f f' hf => ?_
  obtain ⟨hn, hm⟩ := hf
  exact ⟨hn, by rw [Field.tag?, Field.tag?, hm], by rw [hn], by rw [nativeTypeOf, nativeTypeOf, hn]⟩

def InRange (n : Int) : Prop := -2147483648 ≤ n ∧ n ≤ 2147483647

instance (n : Int) : Decidable (InRange n) := inferInstanceAs (Decidable (_ ∧ _))

/-- Two whole numbers are both in range or both out of range, and can be written. -/
def SameRange (n n' : Int) : Prop :=
  (InRange n ↔ InRange n') ∧ Text.isTooLong n = false ∧ Text.isTooLong n' = false

/-- Two values stand for such numbers. -/
def ValuesInRange (v v' : Value) : Prop :=
  ∃ n n', v.toInt? = some n ∧ v'.toInt? = some n' ∧ SameRange n n'

/-- A mapped field without the value it was mapped from. -/
def MappedField.valueless (m : MappedField) : MappedField :=
  { m with descriptor := { m.descriptor with value := .null } }

theorem fitsInt_iff (n : Int) : fitsInt n = true ↔ InRange n := by
  rw [fitsInt, Bool.and_eq_true, decide_eq_true_iff, decide_eq_true_iff]
  exact Iff.rfl

theorem writtenType_of_int {n : Int} (hk : d.kind = .int) (hv : d.value.toInt? = some n) :
    d.writtenType = if fitsInt n then .int else .string := by
  rw [Descriptor.writtenType, hk]
  cases hf : fitsInt n with
  | true => rw [Descriptor.overflow?_of_fits hk hv hf]; rfl
  | false => rw [Descriptor.overflow?_of_not_fits hk hv hf]; rfl

theorem mapField_agree_of_same (h : d.Related (fun k v v' => k = .int → v' = v) d') :
    Agree (fun m m' => m'.valueless = m.valueless) (mapField d).result (mapField d').result := by
  by_cases hk : d.kind = .int
  · have he : d' = d :=
      Descriptor.Related.eq ⟨h.name_eq, h.tag_eq, h.kind_eq, h.nativeType_eq, h.values hk⟩
    rw [he]
    exact (agree_of_eq rfl).mono fun m m' hm => by rw [hm]
  · have hk' : d'.kind ≠ .int := h.kind_eq ▸ hk
    rw [mapField_of_ne_int hk, mapField_of_ne_int hk', Descriptor.mapped_of_ne_int hk,
      Descriptor.mapped_of_ne_int hk']
    refine .yields ?_
    simp only [MappedField.valueless, h.name_eq, h.tag_eq, h.kind_eq, h.nativeType_eq]

theorem mapField_of_number {n : Int} (hv : d.value.toInt? = some n)
    (hn : Text.isTooLong n = false) : (mapField d).result = .ok d.mapped := by
  refine mapField_of_widens (fun _ => by simp [hv]) fun _ m hm => ?_
  cases hv.symm.trans hm
  exact hn

theorem mapField_agree_of_sameRange
    (h : d.Related (fun k v v' => k = .int → ValuesInRange v v') d') :
    Agree (fun m m' => m'.entry = m.entry) (mapField d).result (mapField d').result := by
  have he : d'.externalName = d.externalName := congrArg Name.lowerCamel h.tag_eq
  by_cases hk : d.kind = .int
  · obtain ⟨n, n', hv, hv', hr, hn, hn'⟩ := h.values hk
    have hk' : d'.kind = .int := h.kind_eq.trans hk
    rw [mapField_of_number hv hn, mapField_of_number hv' hn']
    refine .yields (Prod.ext he ?_)
    change d'.writtenType = d.writtenType
    have hf : fitsInt n' = fitsInt n := by
      rw [Bool.eq_iff_iff, fitsInt_iff, fitsInt_iff, hr]
    rw [writtenType_of_int hk hv, writtenType_of_int hk' hv', hf]
  · have hk' : d'.kind ≠ .int := h.kind_eq ▸ hk
    rw [mapField_of_ne_int hk, mapField_of_ne_int hk', Descriptor.mapped_of_ne_int hk,
      Descriptor.mapped_of_ne_int hk', h.kind_eq]
    exact .yields (Prod.ext he rfl)

/-- What holds of the fields of two records at every place. -/
def Placewise (c c' : RecordClass) (P : Named TypeExpr → Field → Field → Prop) : Prop :=
  ∀ hints, c.hints = .ok hints → List.Forall₂ (P hints) c.fields c'.fields

/-- Fields of whole numbers hold the same; of the others each holds something. -/
def HoldSameNumbers (s s' : Subject) (hints : Named TypeExpr) (f f' : Field) : Prop :=
  ((hintOf hints f.name).kind? = some .int → s'.rawValue f' = s.rawValue f) ∧
    ((hintOf hints f.name).kind? ≠ some .int → s.Has f ∧ s'.Has f')

/-- The fields of whole numbers stand for numbers that are both in range or both out of range; of the
others each holds something. -/
def HoldSameRanges (s s' : Subject) (hints : Named TypeExpr) (f f' : Field) : Prop :=
  ((hintOf hints f.name).kind? = some .int →
      ∃ n n', s.number? hints f = some n ∧ s'.number? hints f' = some n' ∧ SameRange n n') ∧
    ((hintOf hints f.name).kind? ≠ some .int → s.Has f ∧ s'.Has f')

theorem number?_eq_some_iff {n : Int} : s.number? hints f = some n ↔
    ∃ v, s.fieldValue f .int (hintOf hints f.name).isOptional = .ok v ∧ v.toInt? = some n := by
  rw [Subject.number?]
  cases s.fieldValue f .int (hintOf hints f.name).isOptional <;> simp

/-- Fields that hold something stand for values of any kind. -/
theorem agree_of_has {R : Value → Value → Prop} {k : Kind} {o o' : Bool} (h : s.Has f)
    (h' : s'.Has f') (hR : ∀ v v', R v v') : Agree R (s.fieldValue f k o)
      (s'.fieldValue f' k o') := by
  obtain ⟨v, hv⟩ := h.fieldValue k o
  obtain ⟨v', hv'⟩ := h'.fieldValue k o'
  rw [hv, hv']
  exact .yields (hR v v')

theorem HoldSameNumbers.valuesRelated (h : HoldSameNumbers s s' hints f f')
    (hn : f'.name = f.name) :
    ValuesRelated (fun k v v' => k = .int → v' = v) s s' hints hints f f' := by
  intro k hk
  by_cases hi : k = .int
  · subst hi
    rw [hn]
    exact (agree_of_eq (fieldValue_congr (h.1 hk)).symm).mono fun _ _ he _ => he.symm
  · obtain ⟨hf, hf'⟩ := h.2 fun hk' => hi (Option.some.inj (hk.symm.trans hk'))
    exact agree_of_has hf hf' fun _ _ hki => absurd hki hi

theorem HoldSameRanges.valuesRelated (h : HoldSameRanges s s' hints f f') :
    ValuesRelated (fun k v v' => k = .int → ValuesInRange v v') s s' hints hints f f' := by
  intro k hk
  by_cases hi : k = .int
  · subst hi
    obtain ⟨n, n', hn, hn', hr⟩ := h.1 hk
    obtain ⟨v, hv, hvn⟩ := number?_eq_some_iff.mp hn
    obtain ⟨v', hv', hvn'⟩ := number?_eq_some_iff.mp hn'
    rw [hv, hv']
    exact .yields fun _ => ⟨n, n', hvn, hvn', hr⟩
  · obtain ⟨hf, hf'⟩ := h.2 fun hk' => hi (Option.some.inj (hk.symm.trans hk'))
    exact agree_of_has hf hf' fun _ _ hki => absurd hki hi

theorem AlikeUnder.descriptors_agree {V : Kind → Value → Value → Prop}
    (h : AlikeUnder tagKey c c') (hc : s.record? = some c) (hc' : s'.record? = some c')
    (hv : Placewise c c' fun hints => ValuesRelated V s s' hints hints) :
    Agree (List.Forall₂ (Descriptor.Related V)) (s.descriptors tagKey).result
      (s'.descriptors tagKey).result := by
  refine RecordSchema.descriptors_agree hc hc' (agree_of_eq h.hints_eq.symm) ?_
  rintro hints _ hh - rfl
  exact forall₂_and (h.matches hints) (hv hints hh)

/-- The same schema types, names and notices, the same texts, or the same error. -/
structure ShownAlike (s s' : Subject) (tagKey : String) : Prop where
  mapped : (s'.mapped tagKey).result.map (fun p => (p.1.map MappedField.valueless, p.2)) =
    (s.mapped tagKey).result.map fun p => (p.1.map MappedField.valueless, p.2)
  view : ∀ v, (s'.viewSchema tagKey v).result = (s.viewSchema tagKey v).result
  schema : ∀ views, (s'.schema tagKey views).result = (s.schema tagKey views).result

/-- The same names and schema types and the same texts, or the same error. -/
structure WrittenAlike (s s' : Subject) (tagKey : String) : Prop where
  mapped : (s'.mapped tagKey).result.map (fun p => p.1.map MappedField.entry) =
    (s.mapped tagKey).result.map fun p => p.1.map MappedField.entry
  view : ∀ v, (s'.viewSchema tagKey v).result.map (·.text) =
    (s.viewSchema tagKey v).result.map (·.text)
  schema : ∀ views, (s'.schema tagKey views).result.map (·.text) =
    (s.schema tagKey views).result.map (·.text)

section Valueless
variable {ms ms' : List MappedField}
  (h : ms'.map MappedField.valueless = ms.map MappedField.valueless)
include h

theorem entries_eq_of_valueless : ms'.map MappedField.entry = ms.map MappedField.entry := by
  have he := congrArg (List.map MappedField.entry) h
  rw [List.map_map, List.map_map] at he
  exact he

theorem notices_eq_of_valueless : ms'.filterMap (·.notice) = ms.filterMap (·.notice) := by
  have he := congrArg (List.filterMap MappedField.notice) h
  rw [List.filterMap_map, List.filterMap_map] at he
  exact he

end Valueless

theorem shownAlike_of_agree
    (h : Agree (List.Forall₂ (Descriptor.Related fun k v v' => k = .int → v' = v))
      (s.descriptors tagKey).result (s'.descriptors tagKey).result) : ShownAlike s s' tagKey := by
  have hp : Agree (fun p p' : List MappedField × List Notice =>
      p'.1.map MappedField.valueless = p.1.map MappedField.valueless ∧ p'.2 = p.2)
      (s.mapped tagKey).result (s'.mapped tagKey).result := by
    refine (mapped_agree h fun d d' => mapField_agree_of_same).mono fun p p' hp => ?_
    obtain ⟨hr, hn, hn'⟩ := hp
    have he := map_eq_of_forall₂ hr
    exact ⟨he, by rw [hn, hn', notices_eq_of_valueless he]⟩
  refine ⟨(hp.map_eq fun p p' h => ?_).symm, fun v => ?_, fun views => ?_⟩
  · rw [h.1, h.2]
  · rw [viewSchema_result, viewSchema_result]
    refine (hp.map_eq fun p p' h => ?_).symm
    rw [blockOf_eq_of_entries (entries_eq_of_valueless h.1), h.2]
  · rw [schema_result, schema_result]
    refine (hp.map_eq fun p p' h => ?_).symm
    rw [schemaText_eq_of_entries (entries_eq_of_valueless h.1), h.2]

theorem writtenAlike_of_agree
    (h : Agree (List.Forall₂ (Descriptor.Related fun k v v' => k = .int → ValuesInRange v v'))
      (s.descriptors tagKey).result (s'.descriptors tagKey).result) :
    WrittenAlike s s' tagKey := by
  have hp := (mapped_agree h fun d d' => mapField_agree_of_sameRange).mono fun p p' hp =>
    (map_eq_of_forall₂ hp.1).symm
  refine ⟨(hp.map_eq fun p p' h => h).symm, fun v => ?_, fun views => ?_⟩
  · rw [viewSchema_result, viewSchema_result, map_map, map_map]
    exact (hp.map_eq fun p p' h => by rw [blockOf_eq_of_entries h]).symm
  · rw [schema_result, schema_result, map_map, map_map]
    exact (hp.map_eq fun p p' h => schemaText_eq_of_entries h views).symm

/-- Records of one class, or of classes that differ in metadata under other keys and declare the
same types, have the same schemas and notices if their fields of whole numbers hold the same,
whatever the others hold; and schemas of the same text if those fields hold numbers that are in
range in both or in neither. -/
theorem numbers_decide_schema (hc : s.record? = some c) (hc' : s'.record? = some c')
    (hm : AlikeUnder tagKey c c') :
    (Placewise c c' (HoldSameNumbers s s') → ShownAlike s s' tagKey) ∧
    (Placewise c c' (HoldSameRanges s s') → WrittenAlike s s' tagKey) := by
  constructor
  · intro h
    refine shownAlike_of_agree (hm.descriptors_agree hc hc' fun hints hh => ?_)
    have hf := forall₂_and (hm.matches hints) (h hints hh)
    exact hf.imp fun f f' hf => hf.2.valuesRelated hf.1.name_eq
  · intro h
    refine writtenAlike_of_agree (hm.descriptors_agree hc hc' fun hints hh => ?_)
    exact (h hints hh).imp fun f f' hf => hf.valuesRelated

/-- A record with a wide number, a text and whatever notes beside its tags. -/
def tank (notes : Table) : RecordClass :=
  ⟨recordLayer ⟨"meters", "Tank"⟩ false
    [⟨"so_mark", .width "UInt64", some { metadata := (defaultTagKey, .text "so_mark") :: notes }⟩,
      ⟨"label", .textType, some { metadata := (defaultTagKey, .text "label") :: notes }⟩],
    [], ⟨"meters", TypeExpr.known, []⟩⟩

def tankHolding (notes : Table) (mark label : Value) : Subject :=
  .instance ⟨tank notes, [("so_mark", mark), ("label", label)]⟩

theorem tank_hints (notes : Table) :
    (tank notes).hints = .ok [("so_mark", .width "UInt64"), ("label", .textType)] := rfl

theorem tank_alike (notes notes' : Table) : AlikeUnder defaultTagKey (tank notes) (tank notes') :=
  ⟨by rw [tank_hints, tank_hints], .cons ⟨rfl, rfl⟩ (.cons ⟨rfl, rfl⟩ .nil)⟩

theorem tank_placewise {notes notes' : Table} {P : Named TypeExpr → Field → Field → Prop}
    (h : ∀ f f' : Field, f.name = "so_mark" → f'.name = "so_mark" →
      P [("so_mark", .width "UInt64"), ("label", .textType)] f f')
    (h' : ∀ f f' : Field, f.name = "label" → f'.name = "label" →
      P [("so_mark", .width "UInt64"), ("label", .textType)] f f') :
    Placewise (tank notes) (tank notes') P := by
  intro hints hh
  cases (tank_hints notes).symm.trans hh
  exact .cons (h _ _ rfl rfl) (.cons (h' _ _ rfl rfl) .nil)

theorem tankHolding_so_mark {notes : Table} {mark label : Value} (hf : f.name = "so_mark") :
    (tankHolding notes mark label).rawValue f = .ok (some mark) := by
  simp only [tankHolding, Subject.rawValue, Instance.attribute?, hf]
  rfl

theorem tankHolding_label {notes : Table} {mark label : Value} (hf : f.name = "label") :
    (tankHolding notes mark label).rawValue f = .ok (some label) := by
  simp only [tankHolding, Subject.rawValue, Instance.attribute?, hf]
  rfl

theorem tankHolding_long {n : Int} (hn : Text.isTooLong n = true) (label : Value) :
    ((tankHolding [] (.int n) label).mapped defaultTagKey).result =
      .error (.unwritten .tooManyDigits) := by
  have hr : ∀ f ∈ (tank []).fields, f.Readable defaultTagKey
      [("so_mark", .width "UInt64"), ("label", .textType)] := by
    unfold Field.Readable
    decide
  have hs : ∀ f ∈ (tank []).fields, (tankHolding [] (.int n) label).Has f := by
    refine List.forall_mem_cons.mpr ⟨⟨_, tankHolding_so_mark rfl⟩, fun f hf => ?_⟩
    cases List.mem_singleton.mp hf
    exact ⟨_, tankHolding_label rfl⟩
  refine (Escapes.numberText (f := (tank []).fields.head (by decide)) ⟨rfl, tank [], [], _, rfl, rfl,
    fun f hf => ⟨hr f hf, hs f hf⟩, rfl, nofun⟩ ?_ hn).mapped_result
  exact number?_eq_some_iff.mpr ⟨_, fieldValue_of_ne_null (tankHolding_so_mark rfl) nofun, rfl⟩

/-- Other notes and a label of another type change nothing; in one class, another number out of
range changes the notice only. -/
theorem tank_shows_numbers :
    ShownAlike (tankHolding [] (.int 4294967296) (.text "m"))
      (tankHolding [("unit", .text "litre")] (.int 4294967296) (.bool true)) defaultTagKey ∧
    WrittenAlike (tankHolding [] (.int 4294967296) (.text "m"))
      (tankHolding [] (.int (-2147483649)) .null) defaultTagKey := by
  have hm := tank_alike [] [("unit", .text "litre")]
  have hmark : (hintOf [("so_mark", .width "UInt64"), ("label", .textType)] "so_mark").kind? =
      some .int := by decide
  have hlabel : (hintOf [("so_mark", .width "UInt64"), ("label", .textType)] "label").kind? ≠
      some .int := by decide
  constructor
  · refine (numbers_decide_schema rfl rfl hm).1 (tank_placewise ?_ ?_)
    · intro f f' hf hf'
      refine ⟨fun _ => ?_, fun hk => absurd (hf ▸ hmark) hk⟩
      rw [tankHolding_so_mark hf, tankHolding_so_mark hf']
    · intro f f' hf hf'
      exact ⟨fun hk => absurd (hf ▸ hk) hlabel,
        fun _ => ⟨⟨_, tankHolding_label hf⟩, _, tankHolding_label hf'⟩⟩
  · refine (numbers_decide_schema rfl rfl (AlikeUnder.refl _ _)).2 (tank_placewise ?_ ?_)
    · intro f f' hf hf'
      refine ⟨fun _ => ⟨4294967296, -2147483649, ?_, ?_, by decide, by decide, by decide⟩,
        fun hk => absurd (hf ▸ hmark) hk⟩
      · exact number?_eq_some_iff.mpr
          ⟨_, fieldValue_of_ne_null (tankHolding_so_mark hf) nofun, rfl⟩
      · exact number?_eq_some_iff.mpr
          ⟨_, fieldValue_of_ne_null (tankHolding_so_mark hf') nofun, rfl⟩
    · intro f f' hf hf'
      exact ⟨fun hk => absurd (hf ▸ hk) hlabel,
        fun _ => ⟨⟨_, tankHolding_label hf⟩, _, tankHolding_label hf'⟩⟩

/-- A record whose field is declared with what its metadata says under another key. -/
def probe (note : String) : RecordClass :=
  ⟨recordLayer ⟨"meters", "Probe"⟩ false
    [⟨"x", .forward "__dataclass_fields__['x'].metadata['k']",
      some { metadata := [(defaultTagKey, .text "x"), ("k", .text note)],
             default := some (.int 1) }⟩],
    [], ⟨"meters", TypeExpr.known, []⟩⟩

/-- Metadata under another key can decide what a field is, an instance that lacks an attribute has
no schema whatever the attribute is, and of two numbers out of range one can be too long to be
written. -/
theorem probe_shows_metadata :
    (List.Forall₂ (Field.AlikeUnder defaultTagKey) (probe "int").fields (probe "str").fields ∧
      Placewise (probe "int") (probe "str")
        (fun _ f f' => (Subject.cls (probe "str")).rawValue f' =
          (Subject.cls (probe "int")).rawValue f) ∧
      ¬ ShownAlike (.cls (probe "int")) (.cls (probe "str")) defaultTagKey) ∧
    Placewise (tank []) (tank [])
      (fun hints f f' => (hintOf hints f.name).kind? = some .int →
        (Subject.instance ⟨tank [], [("so_mark", .int 1)]⟩).rawValue f' =
          (tankHolding [] (.int 1) (.text "m")).rawValue f) ∧
    ¬ ShownAlike (tankHolding [] (.int 1) (.text "m"))
      (.instance ⟨tank [], [("so_mark", .int 1)]⟩) defaultTagKey ∧
    ¬ InRange Text.leastLong ∧ ¬ WrittenAlike (tankHolding [] (.int 4294967296) (.text "m"))
      (tankHolding [] (.int Text.leastLong) (.text "m")) defaultTagKey := by
  refine ⟨⟨.cons ⟨rfl, rfl⟩ .nil, fun hints _ => .cons rfl .nil, fun h => ?_⟩,
    tank_placewise (fun f f' hf hf' _ => ?_) (fun f f' hf hf' hk => ?_), fun h => ?_, ?_⟩
  · have hne : ((Subject.cls (probe "str")).schema defaultTagKey
        [.defaultInput]).result.toOption.map (·.text) ≠
          ((Subject.cls (probe "int")).schema defaultTagKey
            [.defaultInput]).result.toOption.map (·.text) := by
      decide +kernel
    exact hne (by rw [h.schema])
  · rw [tankHolding_so_mark hf]
    simp only [Subject.rawValue, Instance.attribute?, hf']
    rfl
  · rw [hf] at hk
    cases hk
  · have hne : ((Subject.instance ⟨tank [], [("so_mark", .int 1)]⟩).schema defaultTagKey
        [.defaultInput]).result.toOption.map (·.text) ≠
          ((tankHolding [] (.int 1) (.text "m")).schema defaultTagKey
            [.defaultInput]).result.toOption.map (·.text) := by
      decide +kernel
    exact hne (by rw [h.schema])
  · have hl := Text.isTooLong_leastLong
    generalize (Text.leastLong : Int) = n at hl ⊢
    refine ⟨fun hr => ?_, fun h => ?_⟩
    · cases (fitsInt_of_long hl).symm.trans ((fitsInt_iff n).mpr hr)
    · have hm := h.mapped
      rw [tankHolding_long hl] at hm
      cases map_eq_error_iff.mp hm.symm

end RecordSchema
