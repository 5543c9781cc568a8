import RecordSchema.Proofs.Schema.Rejection

/-! # What the schema of a record is

The text of a schema is one block for each view, in the order of the views, and every block lists
all fields in the order of the record. The notices are those of the fields whose numbers are out of
range; the views have no part in them.
-/
namespace RecordSchema
variable {s : Subject} {tagKey : String} {hints : Named TypeExpr}

/-- The line of a field in a block whose types carry a mark. -/
def Descriptor.writtenLine (d : Descriptor) (mark : String) : String :=
  "\t" ++ Name.lowerCamel d.tag ++ ": " ++ d.writtenType.name ++ mark ++ "\n"

def writtenBlock (ds : List Descriptor) (v : View) : String :=
  v.head ++ " \x7b\n" ++ String.join (ds.map fun d => d.writtenLine v.mark) ++ "\x7d\n"

theorem fieldLine_render (d : Descriptor) (v : View) :
    (BlockLine.mk 1 (d.mapped.line v)).render = d.writtenLine v.mark := by
  have ht : String.ofList (List.replicate (1 : Int).toNat '\t') = "\t" := rfl
  simp only [BlockLine.render, ht, MappedField.line, Block.fieldText, Descriptor.externalName,
    Descriptor.mapped, Descriptor.writtenLine, String.append_assoc]

theorem blockOf_text (ds : List Descriptor) (v : View) :
    (blockOf (ds.map Descriptor.mapped) v).text = writtenBlock ds v := by
  simp only [blockOf, Block.text, Block.opening, Block.closing, List.map_map, writtenBlock,
    Function.comp_def, fieldLine_render]

theorem schemaText_mapped (ds : List Descriptor) (views : List View) :
    schemaText (ds.map Descriptor.mapped) views =
      String.intercalate "\n" (views.map (writtenBlock ds)) := by
  simp only [schemaText, blockSeparator, blockOf_text]

/-- A record without defects is mapped field by field. -/
theorem mapped_of_readable {c : RecordClass} (hc : s.record? = some c) (hh : c.hints = .ok hints)
    (hr : ∀ f ∈ c.fields, f.Readable tagKey hints) (hs : ∀ f ∈ c.fields, s.Has f)
    (hw : ∀ f ∈ c.fields, s.Widens hints f) (hl : ∀ f ∈ c.fields, s.IsShort hints f) :
    ∃ ds, List.Forall₂ (Describes s tagKey hints) c.fields ds ∧
      (s.mapped tagKey).result =
        .ok (ds.map Descriptor.mapped, ds.filterMap Descriptor.remark?) := by
  obtain ⟨ds, hd⟩ := walked_of_readable hr hs
  have hwd : ∀ d ∈ ds, d.Widens := by
    intro d hm
    obtain ⟨f, hf, hfd⟩ := exists_mem_left hd hm
    exact hfd.widens_iff.mpr (hw f hf)
  have hld : ∀ d ∈ ds, d.Short := by
    intro d hm
    obtain ⟨f, hf, hfd⟩ := exists_mem_left hd hm
    exact hfd.short_iff.mpr (hl f hf)
  exact ⟨ds, hd, mapped_eq_ok_iff.mpr ⟨c, hints, ds, hc, hh, hd, hwd, hld, rfl, rfl⟩⟩

/-- A record whose numbers lie at the ends of the range: the last of them is just outside. -/
def gauge : RecordClass :=
  ⟨recordLayer ⟨"meters", "Gauge"⟩ false
    [taggedField "hosts" textsType (texts []),
      taggedField "level" (.union [.width "UInt8", .noneType]) .null,
      taggedField "floor" (.width "Int64") (.int 0),
      taggedField "so_mark" (.union [.width "UInt64", .noneType]) .null],
    [], ⟨"meters", TypeExpr.known, []⟩⟩

def gaugeAtEnds : Subject :=
  .instance ⟨gauge, [("hosts", texts ["a"]), ("level", .null), ("floor", .int (-2147483648)),
    ("so_mark", .int 2147483648)]⟩

example : (gaugeAtEnds.schema defaultTagKey [.input "gaugeInput"]).result.toOption =
    some ⟨"input gaugeInput \x7b\n\thosts: [String!]\n\tlevel: Int\n\tfloor: Int\n" ++
        "\tsoMark: String\n\x7d\n",
      [.warning ("so_mark (UInt64): value 2147483648 exceeds GraphQL Int32 range, " ++
        "using String type instead")]⟩ := by
  decide +kernel

end RecordSchema
