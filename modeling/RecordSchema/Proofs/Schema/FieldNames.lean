import RecordSchema.Proofs.Name.Letters
import RecordSchema.Proofs.Schema.Meaning

/-! # Which field names of a schema are legal

Only blank tags are turned down, while a name needs a letter to begin with. A tag of other
characters makes an empty name, and one that opens with a digit a name that opens with it; both are
written into the schema.
-/
namespace RecordSchema
variable {s : Subject} {tagKey : String}

theorem externalName_isLegal_iff (m : MappedField) :
    Name.IsLegal m.descriptor.externalName ↔ Name.OpensWithLetter m.descriptor.tag :=
  Name.lowerCamel_isLegal_iff _

/-- The tags of the fields are those of the mapped fields. -/
theorem exists_tag_iff {c : RecordClass} {hints : Named TypeExpr} {ds : List Descriptor}
    (hd : List.Forall₂ (Describes s tagKey hints) c.fields ds) (p : String → Prop) :
    (∃ m ∈ ds.map Descriptor.mapped, p m.descriptor.tag) ↔
      ∃ f ∈ c.fields, ∃ tag, f.tag? tagKey = some tag ∧ p tag := by
  constructor
  · rintro ⟨m, hm, hp⟩
    obtain ⟨d, hds, rfl⟩ := List.mem_map.mp hm
    obtain ⟨f, hf, hfd⟩ := exists_mem_left hd hds
    exact ⟨f, hf, d.tag, hfd.tag_eq, hp⟩
  · rintro ⟨f, hf, tag, ht, hp⟩
    obtain ⟨d, hds, hfd⟩ := exists_mem_left hd.flip hf
    cases hfd.tag_eq.symm.trans ht
    exact ⟨d.mapped, List.mem_map_of_mem hds, hp⟩

/-- A name in a schema has letters and digits only and is legal if the first letter or digit of
the tag is a letter. A record without other defects is mapped with an illegal name exactly if one
of its tags is not like that. -/
theorem illegalName_iff (s : Subject) (tagKey : String) :
    (∀ ms ns, (s.mapped tagKey).result = .ok (ms, ns) → ∀ m ∈ ms,
      (∀ a ∈ m.descriptor.externalName.toList, a.isAlphanum) ∧
      (m.descriptor.externalName = "" ↔ ∀ a ∈ m.descriptor.tag.toList, ¬ a.isAlphanum) ∧
      (Name.IsLegal m.descriptor.externalName ↔ Name.OpensWithLetter m.descriptor.tag)) ∧
    ((∃ ms ns, (s.mapped tagKey).result = .ok (ms, ns) ∧
        ∃ m ∈ ms, ¬ Name.IsLegal m.descriptor.externalName) ↔
      ∃ c hints, s.record? = some c ∧ c.hints = .ok hints ∧
        (∀ f ∈ c.fields, f.Readable tagKey hints ∧ s.Has f ∧ s.Widens hints f ∧
          s.IsShort hints f) ∧
        ∃ f ∈ c.fields, ∃ tag, f.tag? tagKey = some tag ∧ ¬ Name.OpensWithLetter tag) := by
  refine ⟨fun ms ns _ m _ => ⟨fun a => Name.isAlphanum_of_mem_lowerCamel,
    Name.lowerCamel_eq_empty_iff _, externalName_isLegal_iff m⟩, ?_⟩
  simp only [externalName_isLegal_iff]
  constructor
  · rintro ⟨ms, ns, hm, h⟩
    obtain ⟨c, hints, ds, hc, hh, hd, hw, hl, rfl, rfl⟩ := mapped_eq_ok_iff.mp hm
    refine ⟨c, hints, hc, hh, fun f hf => ?_, (exists_tag_iff hd _).mp h⟩
    obtain ⟨d, hds, hfd⟩ := exists_mem_left hd.flip hf
    have hfd : Describes s tagKey hints f d := hfd
    exact ⟨hfd.readable, hfd.has, hfd.widens_iff.mp (hw d hds), hfd.short_iff.mp (hl d hds)⟩
  · rintro ⟨c, hints, hc, hh, hr, h⟩
    obtain ⟨ds, hd, hm⟩ := mapped_of_readable hc hh (fun f hf => (hr f hf).1)
      (fun f hf => (hr f hf).2.1) (fun f hf => (hr f hf).2.2.1) fun f hf => (hr f hf).2.2.2
    exact ⟨_, _, hm, (exists_tag_iff hd _).mpr h⟩

/-- A record with a field whose name and tag are underscores. -/
def underlined : RecordClass :=
  ⟨recordLayer ⟨"meters", "Underlined"⟩ false
    [taggedField "so_mark" .intType (.int 1), taggedField "___" .intType (.int 2)],
    [], ⟨"meters", TypeExpr.known, []⟩⟩

theorem underlined_readable : ∃ hints, underlined.hints = .ok hints ∧
    ∀ f ∈ underlined.fields, f.Readable defaultTagKey hints ∧ (Subject.cls underlined).Has f ∧
      (Subject.cls underlined).Widens hints f ∧ (Subject.cls underlined).IsShort hints f := by
  refine ⟨[("so_mark", .intType), ("___", .intType)], rfl, ?_⟩
  unfold Field.Readable Subject.Widens Subject.IsShort
  decide

theorem underlined_illegalName : ∃ ms ns,
    ((Subject.cls underlined).mapped defaultTagKey).result = .ok (ms, ns) ∧
      ∃ m ∈ ms, ¬ Name.IsLegal m.descriptor.externalName := by
  obtain ⟨hints, hh, hr⟩ := underlined_readable
  have hl : ¬ Name.OpensWithLetter "___" := by
    rintro ⟨c, hc, -⟩
    cases hc
  have hf : (taggedField "___" .intType (.int 2)).field ∈ underlined.fields :=
    List.mem_cons_of_mem _ List.mem_cons_self
  exact (illegalName_iff (.cls underlined) defaultTagKey).2.mpr
    ⟨underlined, hints, rfl, hh, hr, _, hf, "___", rfl, hl⟩

example : ((Subject.cls underlined).schema defaultTagKey [.defaultOutput]).result.toOption =
    some ⟨"type Global \x7b\n\tsoMark: Int!\n\t: Int!\n\x7d\n", []⟩ := by
  decide +kernel

end RecordSchema
