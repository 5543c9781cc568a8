import RecordSchema.Proofs.CommandLine.Arguments
import RecordSchema.Proofs.FieldTable.Columns
import RecordSchema.Proofs.Name.Letters
import RecordSchema.Proofs.Terminal.Writers

/-! # Texts and messages without escapes

What is put out and what is said about a failure is put together from fixed texts, from the
arguments, the settings and the record, and from texts in which escapes are written by their codes.
Where none of the former has an escape, neither has the result.
-/
namespace RecordSchema
open Terminal (IsPlain escape isPlain_append isPlain_intercalate isPlain_join isPlain_literal
  isPlain_ofList isPlain_quoted)

/-! ## Records -/

/-- No text that a record brings along has an escape: its own text if it is no record, what is said
about a type that cannot be read, and the names, tags, types and classes of its fields. -/
structure Subject.Unescaped (s : Subject) (tagKey : String) : Prop where
  shown : s.record? = none → ∀ shown, s.shown = .ok shown → IsPlain shown
  unread : ∀ c cause, s.record? = some c → lineageHints c.scope c.lineage = .error cause →
    IsPlain c.name.name ∧ IsPlain cause.message
  fields : ∀ c hints, s.record? = some c → lineageHints c.scope c.lineage = .ok hints →
    ∀ f ∈ c.fields, IsPlain f.name ∧
      (∀ shown, nativeTypeOf hints f = .ok shown → IsPlain shown) ∧
      (∀ tag, f.tag? tagKey = some tag → IsPlain tag) ∧
      ∀ v, s.fieldValue f .int (hintOf hints f.name).isOptional = .ok v → IsPlain v.className

/-- External names are made of letters and digits. -/
theorem isPlain_lowerCamel (tag : String) : IsPlain (Name.lowerCamel tag) := by
  intro he
  exact absurd (Name.isAlphanum_of_mem_lowerCamel he) (by decide)

theorem isPlain_schemaType (t : SchemaType) : IsPlain t.name := by
  cases t <;> exact isPlain_literal rfl

theorem isPlain_kind (k : Kind) : IsPlain k.name := by
  cases k <;> exact isPlain_literal rfl

section Stops
variable {s : Subject} {tagKey : String} {hints : Named TypeExpr} {f : Field}

theorem StopsAt.mem_fields (h : StopsAt s tagKey hints f) : ∃ c, s.record? = some c ∧
    lineageHints c.scope c.lineage = .ok hints ∧ f ∈ c.fields := by
  obtain ⟨c, before, after, hc, hh, hf, -⟩ := h
  exact ⟨c, hc, hh, hf ▸ List.mem_append_cons_self⟩

theorem StopsMappingAt.mem_fields (h : StopsMappingAt s tagKey hints f) : ∃ c, s.record? = some c ∧
    lineageHints c.scope c.lineage = .ok hints ∧ f ∈ c.fields := by
  obtain ⟨-, c, before, after, hc, hh, -, hf, -⟩ := h
  exact ⟨c, hc, hh, hf ▸ List.mem_append_cons_self⟩

end Stops

/-- The message of an error of the build shows what stands in the record. -/
theorem isPlain_schemaError {s : Subject} {tagKey : String} {e : SchemaError}
    (hs : s.Unescaped tagKey) (hk : IsPlain tagKey) (h : (s.mapped tagKey).result = .error e)
    (hb : e.isBuild = true) : IsPlain e.message := by
  have hr : ∃ k, Rejected s tagKey k e := by
    refine (stopped_of_error (fun c cause hc hf => ?_) h).resolve_right fun he => ?_
    · rw [mapped_of_unresolved hc (hints_of_error hf)] at h
      cases h
      exact hb
    · rw [SchemaError.isBuild_eq_isSome, he.class?_eq] at hb
      cases hb
  obtain ⟨k, hr⟩ := hr
  unfold SchemaError.message
  cases hr with
  | notARecord hn ht =>
    exact isPlain_append.mpr ⟨hs.shown hn _ ht, isPlain_literal rfl⟩
  | unresolved hc he hd =>
    obtain ⟨hn, hm⟩ := hs.unread _ _ hc he
    simp only [hd, if_true, isPlain_append]
    exact ⟨⟨⟨isPlain_literal rfl, hn⟩, isPlain_literal rfl⟩, hm⟩
  | missingTag hf ht =>
    obtain ⟨c, hc, hh, hm⟩ := hf.mem_fields
    obtain ⟨hn, -⟩ := hs.fields c _ hc hh _ hm
    simp only [isPlain_append]
    exact ⟨⟨⟨⟨isPlain_literal rfl, hn⟩, isPlain_literal rfl⟩, hk⟩, isPlain_literal rfl⟩
  | unsupportedType hf ht hk hty =>
    obtain ⟨c, hc, hh, hm⟩ := hf.mem_fields
    obtain ⟨hn, hp, -⟩ := hs.fields c _ hc hh _ hm
    simp only [isPlain_append]
    exact ⟨⟨⟨isPlain_literal rfl, hn⟩, isPlain_literal rfl⟩, hp _ hty⟩
  | notAnInteger hf hv hi hty =>
    obtain ⟨c, hc, hh, hm⟩ := hf.mem_fields
    obtain ⟨hn, hp, -, hcl⟩ := hs.fields c _ hc hh _ hm
    simp only [isPlain_append]
    exact ⟨⟨⟨⟨⟨⟨isPlain_literal rfl, hn⟩, isPlain_literal rfl⟩, hcl _ hv⟩, isPlain_literal rfl⟩,
      hp _ hty⟩, isPlain_literal rfl⟩

/-! ## Schemas and tables -/

theorem isPlain_block {v : View} (hh : IsPlain v.head) (hm : IsPlain v.mark)
    (ms : List MappedField) : IsPlain (blockOf ms v).text := by
  have ht : escape ≠ '\t' := by decide
  have hl : ∀ m : MappedField, IsPlain (m.line v) := by
    intro m
    unfold MappedField.line Block.fieldText Descriptor.externalName
    simp only [isPlain_append]
    exact ⟨⟨⟨isPlain_lowerCamel _, isPlain_literal rfl⟩, isPlain_schemaType m.type⟩, hm⟩
  unfold Block.text Block.opening Block.closing
  simp only [isPlain_append]
  refine ⟨⟨⟨hh, isPlain_literal rfl⟩, isPlain_join fun s hs => ?_⟩, isPlain_literal rfl⟩
  obtain ⟨l, hl', rfl⟩ := List.mem_map.mp hs
  obtain ⟨m, -, rfl⟩ := List.mem_map.mp hl'
  unfold BlockLine.render
  simp only [isPlain_append, isPlain_ofList]
  exact ⟨⟨by simp [ht], hl m⟩, isPlain_literal rfl⟩

theorem isPlain_schemaText {views : List View} (h : ∀ v ∈ views, IsPlain v.head ∧ IsPlain v.mark)
    (ms : List MappedField) : IsPlain (schemaText ms views) := by
  refine isPlain_intercalate (isPlain_literal rfl) fun s hs => ?_
  obtain ⟨v, hv, rfl⟩ := List.mem_map.mp hs
  exact isPlain_block (h v hv).1 (h v hv).2 ms

namespace FieldTable

theorem isPlain_lines {rows : List FieldRow} (h : ∀ r ∈ rows, ∀ c : Column, IsPlain (c.cell r)) :
    ∀ l ∈ lines rows, IsPlain l := by
  have hh : ∀ c : Column, IsPlain c.heading := by
    intro c
    cases c <;> exact isPlain_literal rfl
  exact not_mem_lines (by decide) hh (isPlain_literal rfl) h

end FieldTable

/-! ## Settings -/

namespace Settings
variable {tree : FileTree} {r : Request} {e : Error}

theorem isPlain_fileMessage (path : String) (e : FileError) : IsPlain (fileMessage path e) := by
  have hc : IsPlain e.cause := by cases e <;> exact isPlain_literal rfl
  have hn : IsPlain (toString e.number) := by
    rw [Nat.toString_eq_repr]
    exact Terminal.isPlain_repr_nat _
  unfold fileMessage
  simp only [isPlain_append]
  exact ⟨⟨⟨⟨⟨isPlain_literal rfl, hn⟩, isPlain_literal rfl⟩, hc⟩, isPlain_literal rfl⟩,
    isPlain_quoted path⟩

theorem isPlain_finishError {d : Draft} {t : Table} (h : finish d t = .error e)
    (hc : e.isConfig = true) : IsPlain e.message := by
  unfold finish at h
  split at h
  · rename_i ho
    cases h
    have he := (Draft.override_error d t).symm.trans (congrArg Prod.snd ho)
    obtain ⟨entry, -, he⟩ := List.exists_of_findSome?_eq_some he
    rcases overrideError?_cases he with ⟨cause, rfl⟩ | rfl
    · cases hc
    · exact isPlain_append.mpr ⟨isPlain_literal rfl, isPlain_quoted entry.1⟩
  · unfold Draft.freeze at h
    split at h
    · cases h
    · cases h
      refine isPlain_append.mpr ⟨isPlain_literal rfl, isPlain_intercalate (isPlain_literal rfl) ?_⟩
      intro name hn
      obtain ⟨k, -, rfl⟩ := List.mem_map.mp hn
      cases k <;> exact isPlain_literal rfl

theorem Unreadable.isPlain_message {p : Path} (h : Unreadable tree p e) (hp : p.IsPlain)
    (hc : e.isConfig = true) : IsPlain e.message := by
  cases h with
  | missing hr =>
    unfold Error.message
    simp only [isPlain_append]
    exact ⟨⟨⟨isPlain_literal rfl, hp.text⟩, isPlain_literal rfl⟩, isPlain_fileMessage _ _⟩
  | undecodable | untold => cases hc
  | @refused c s fault hr hd hq =>
    have hm : IsPlain (Error.malformed p.text).message := by
      unfold Error.message
      simp only [isPlain_append]
      exact ⟨⟨⟨isPlain_literal rfl, hp.text⟩, isPlain_literal rfl⟩, isPlain_literal rfl⟩
    cases fault with
    | keyPresent | redefined => cases hc
    | _ => exact hm

theorem isPlain_paths (hd : r.directory.IsPlain) (he : ∀ p ∈ r.extra, p.IsPlain) :
    ∀ p ∈ r.discovered tree ++ r.extra, p.IsPlain := by
  intro p hp
  rcases List.mem_append.mp hp with hp | hp
  · unfold Request.discovered at hp
    split_ifs at hp
    · cases hp
    · have hm := List.mem_of_mem_filter hp
      simp only [List.mem_cons, List.not_mem_nil, or_false] at hm
      rcases hm with rfl | rfl <;> exact hd.child (isPlain_literal rfl)
  · exact he p hp

/-- The message of a configuration error shows paths and otherwise quotes what it mentions. -/
theorem isPlain_loadError (hd : r.directory.IsPlain) (hx : ∀ p ∈ r.extra, p.IsPlain)
    (h : (load tree r).result = .error e) (hc : e.isConfig = true) : IsPlain e.message := by
  rcases load_eq_error_iff.mp h with hf | ⟨files, hf, before, p, after, hfs, -, hp⟩ | ⟨-, hf⟩
  · rw [files_error hf] at hc
    cases hc
  · have hm : p ∈ r.discovered tree ++ r.extra := files_eq hf ▸ hfs ▸ by simp
    exact hp.isPlain_message (isPlain_paths hd hx p hm) hc
  · exact isPlain_finishError hf hc

end Settings

theorem Library.isPlain_loadError (e : Library.LoadError) : IsPlain e.message := by
  unfold Library.LoadError.message
  cases e with
  | invalidPath path =>
    simp only [isPlain_append]
    exact ⟨⟨isPlain_literal rfl, isPlain_quoted path⟩, isPlain_literal rfl⟩
  | notImportable module cause =>
    have hc : IsPlain cause.message := by
      unfold Library.ImportError.message
      cases cause with
      | missing name => exact isPlain_append.mpr ⟨isPlain_literal rfl, isPlain_quoted name⟩
      | notPackage name parent =>
        simp only [isPlain_append]
        exact ⟨⟨⟨⟨isPlain_literal rfl, isPlain_quoted name⟩, isPlain_literal rfl⟩,
          isPlain_quoted parent⟩, isPlain_literal rfl⟩
    simp only [isPlain_append]
    exact ⟨⟨⟨isPlain_literal rfl, isPlain_quoted module⟩, isPlain_literal rfl⟩, hc⟩
  | noAttribute module path =>
    simp only [isPlain_append]
    exact ⟨⟨⟨isPlain_literal rfl, isPlain_quoted module⟩, isPlain_literal rfl⟩,
      isPlain_quoted path⟩
  | relative module => exact isPlain_append.mpr ⟨isPlain_literal rfl, isPlain_quoted module⟩

end RecordSchema
