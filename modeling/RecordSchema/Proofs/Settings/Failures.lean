import RecordSchema.Proofs.Settings.Precedence
import RecordSchema.Proofs.Traversal

/-! # Why loading settings fails

Loading stops at the first thing that goes wrong: a place that cannot be searched, a file that
cannot be read, and last the values themselves. Each is a configuration error unless it passes
through; with the values only an override that has no text does.
-/
namespace RecordSchema.Settings
variable {tree : FileTree} {r : Request} {p : Path} {e : Error}

/-! ## One file -/

/-- The text of a file as it is read, with line ends of one kind. -/
def documentText (s : String) : String := String.ofList (Text.unifyNewlines s.toList)

/-- What it is called that a file is no document. -/
def refusal (p : Path) : Toml.Fault → Error
  | .keyPresent k => .keyPresent k
  | .redefined => .redefined
  | _ => .malformed p.text

/-- The error that no draft can be made of a settings file with. -/
inductive Unreadable (tree : FileTree) (p : Path) : Error → Prop
  | missing {cause : FileError} (hr : tree.read p = .error cause) :
      Unreadable tree p (.unreadable p.text cause)
  | undecodable {c : Content} {f : Text.Utf8.Fault} (hr : tree.read p = .ok c)
      (hd : c.decode = .error f) : Unreadable tree p (.undecodable f)
  | refused {c : Content} {s : String} {fault : Toml.Fault} (hr : tree.read p = .ok c)
      (hd : c.decode = .ok s) (hp : Toml.parse (documentText s) = .error fault) :
      Unreadable tree p (refusal p fault)
  | untold {entries t : Table} {k : Key} (hr : (readFile tree p).result = .ok entries)
      (ht : tableOf? entries p = some t) (hk : Untold t k) :
      Unreadable tree p (.unwritten .tooManyDigits)

theorem readFile_of_missing {cause : FileError} (hr : tree.read p = .error cause) :
    (readFile tree p).result = .error (.unreadable p.text cause) := by
  rw [readFile, hr]
  rfl

theorem readFile_of_undecodable {c : Content} {f : Text.Utf8.Fault} (hr : tree.read p = .ok c)
    (hd : c.decode = .error f) : (readFile tree p).result = .error (.undecodable f) := by
  rw [readFile, hr]
  simp only [hd]
  rfl

theorem readFile_of_document {c : Content} {s : String} (hr : tree.read p = .ok c)
    (hd : c.decode = .ok s) :
    (readFile tree p).result = (Toml.parse (documentText s)).mapError (refusal p) := by
  rw [readFile, hr]
  simp only [hd, documentText]
  cases Toml.parse (String.ofList (Text.unifyNewlines s.toList)) with
  | ok t => rfl
  | error fault => cases fault <;> rfl

theorem unreadable_of_readFile (h : (readFile tree p).result = .error e) : Unreadable tree p e := by
  cases hr : tree.read p with
  | error cause =>
    cases (readFile_of_missing hr).symm.trans h
    exact .missing hr
  | ok c =>
    cases hd : c.decode with
    | error f =>
      cases (readFile_of_undecodable hr hd).symm.trans h
      exact .undecodable hr hd
    | ok s =>
      have h := (readFile_of_document hr hd).symm.trans h
      cases hp : Toml.parse (documentText s) with
      | ok t =>
        rw [hp] at h
        cases h
      | error fault =>
        rw [hp] at h
        cases h
        exact .refused hr hd hp

theorem ofFile_of_readFile (h : (readFile tree p).result = .error e) :
    (Draft.ofFile tree p).result = .error e := by
  rw [Draft.ofFile, Logged.result_bind, h]
  rfl

theorem ofFile_of_entries {entries t : Table} (hr : (readFile tree p).result = .ok entries)
    (ht : tableOf? entries p = some t) :
    (Draft.ofFile tree p).result = (Draft.ofTable t p.text).result.map some := by
  rw [Draft.ofFile, Logged.result_bind, hr, ok_bind, ht]
  simp only [Logged.result_bind, Logged.result_write, ok_bind]
  cases (Draft.ofTable t p.text).result <;> rfl

theorem ofFile_eq_error_iff : (Draft.ofFile tree p).result = .error e ↔ Unreadable tree p e := by
  constructor
  · intro h
    cases hr : (readFile tree p).result with
    | error e' =>
      cases (ofFile_of_readFile hr).symm.trans h
      exact unreadable_of_readFile hr
    | ok entries =>
      cases ht : tableOf? entries p with
      | none =>
        rw [Draft.ofFile, Logged.result_bind, hr, ok_bind, ht] at h
        cases h
      | some t =>
        rw [ofFile_of_entries hr ht, map_eq_error_iff, Draft.ofTable_eq_error_iff] at h
        obtain ⟨rfl, k, hk⟩ := h
        exact .untold hr ht hk
  · intro h
    cases h with
    | missing hr => exact ofFile_of_readFile (readFile_of_missing hr)
    | undecodable hr hd => exact ofFile_of_readFile (readFile_of_undecodable hr hd)
    | refused hr hd hp =>
      refine ofFile_of_readFile ?_
      rw [readFile_of_document hr hd, hp]
      rfl
    | untold hr ht hk =>
      rw [ofFile_of_entries hr ht, map_eq_error_iff, Draft.ofTable_eq_error_iff]
      exact ⟨rfl, _, hk⟩

theorem readFile_eq_ok_iff {entries : Table} : (readFile tree p).result = .ok entries ↔
    ∃ c s, tree.read p = .ok c ∧ c.decode = .ok s ∧ Toml.parse (documentText s) = .ok entries := by
  constructor
  · intro h
    cases hr : tree.read p with
    | error cause => cases (readFile_of_missing hr).symm.trans h
    | ok c =>
      cases hd : c.decode with
      | error f => cases (readFile_of_undecodable hr hd).symm.trans h
      | ok s =>
        rw [readFile_of_document hr hd] at h
        cases hp : Toml.parse (documentText s) with
        | error fault =>
          rw [hp] at h
          cases h
        | ok t =>
          rw [hp] at h
          cases h
          exact ⟨c, s, rfl, hd, hp⟩
  · rintro ⟨c, s, hr, hd, hp⟩
    rw [readFile_of_document hr hd, hp]
    rfl

/-- A file is garbled if its bytes are no text, if a key or a header is taken twice inside a part of
its document, or if a known key of its settings table has a number that is too long to be shown. -/
def Garbled (tree : FileTree) (p : Path) : Prop :=
  ∃ c, tree.read p = .ok c ∧ ((∃ f, c.decode = .error f) ∨ ∃ s, c.decode = .ok s ∧
    ((∃ key, Toml.parse (documentText s) = .error (.keyPresent key)) ∨
      Toml.parse (documentText s) = .error .redefined ∨
      ∃ entries t k, Toml.parse (documentText s) = .ok entries ∧ tableOf? entries p = some t ∧
        Untold t k))

theorem Unreadable.isConfig_eq_false_iff (h : Unreadable tree p e) :
    e.isConfig = false ↔ Garbled tree p := by
  unfold Garbled
  cases h with
  | missing hr => simp [Error.isConfig, hr]
  | undecodable hr hd => simp [Error.isConfig, hr, hd]
  | @refused c s fault hr hd hp =>
    cases fault <;> simp [Error.isConfig, refusal, hr, hd, hp]
  | @untold entries t k hr ht hk =>
    obtain ⟨c, s, hr, hd, hp⟩ := readFile_eq_ok_iff.mp hr
    refine iff_of_true rfl ⟨c, hr, .inr ⟨s, hd, .inr (.inr ⟨entries, t, k, hp, ht, hk⟩)⟩⟩

theorem Garbled.unreadable (h : Garbled tree p) :
    ∃ e, Unreadable tree p e ∧ e.isConfig = false := by
  obtain ⟨c, hr, ⟨f, hd⟩ | ⟨s, hd, ⟨key, hp⟩ | hp | ⟨entries, t, k, hp, ht, hk⟩⟩⟩ := h
  · exact ⟨_, .undecodable hr hd, rfl⟩
  · exact ⟨_, .refused hr hd hp, rfl⟩
  · exact ⟨_, .refused hr hd hp, rfl⟩
  · exact ⟨_, .untold (readFile_eq_ok_iff.mpr ⟨c, s, hr, hd, hp⟩) ht hk, rfl⟩

/-! ## The search -/

/-- The question whether there is a file fails as a lookup on the way to it does, if at all. -/
theorem isFile_eq_error_iff {cause : FileError} : tree.isFile p = .error cause ↔
    tree.locate p = .error cause ∧ (cause = .denied ∨ cause = .nameTooLong) := by
  unfold FileTree.isFile
  cases tree.locate p with
  | ok place =>
    cases hn : tree.nodeAt? place with
    | none => simp [hn]
    | some node => cases node <;> simp [hn]
  | error fault => cases fault <;> simp [eq_comm] <;> rintro rfl <;> simp

theorem existing_error {ps : List Path} (h : existing tree ps = .error e) :
    ∃ p ∈ ps, ∃ cause, tree.isFile p = .error cause ∧ e = .unsearchable p.text cause := by
  induction ps with
  | nil => cases h
  | cons p ps ih =>
    rw [existing] at h
    cases hp : tree.isFile p with
    | error cause =>
      rw [hp] at h
      cases h
      exact ⟨p, List.mem_cons_self, cause, hp, rfl⟩
    | ok found =>
      have hps : existing tree ps = .error e := by
        rw [hp] at h
        cases found with
        | false => exact h
        | true => exact map_eq_error_iff.mp h
      obtain ⟨q, hq, hc⟩ := ih hps
      exact ⟨q, List.mem_cons_of_mem p hq, hc⟩

theorem existing_of_isFile {ps : List Path} (hp : p ∈ ps) {cause : FileError}
    (hc : tree.isFile p = .error cause) : ∃ e, existing tree ps = .error e := by
  induction ps with
  | nil => cases hp
  | cons q ps ih =>
    rw [existing]
    rcases List.mem_cons.mp hp with rfl | hp
    · rw [hc]
      exact ⟨_, rfl⟩
    · obtain ⟨e, he⟩ := ih hp
      cases tree.isFile q with
      | error cause => exact ⟨_, rfl⟩
      | ok found =>
        cases found with
        | false => exact ⟨e, he⟩
        | true => exact ⟨e, map_eq_error_iff.mpr he⟩

theorem files_error_iff_existing : r.files tree = .error e ↔ r.noConfig = false ∧
    existing tree ([sharedFileName, ownFileName].map r.directory.child) = .error e := by
  unfold Request.files
  cases r.noConfig with
  | true => simp
  | false =>
    rw [if_neg (by decide), and_iff_right rfl]
    exact map_eq_error_iff

theorem files_error (h : r.files tree = .error e) : e.isConfig = false := by
  obtain ⟨p, -, cause, -, rfl⟩ := existing_error (files_error_iff_existing.mp h).2
  rfl

/-- The search goes on unless the place of a settings file is closed, or its name is too long for
the place it is looked for in. -/
theorem files_eq_error_iff : (∃ e, r.files tree = .error e) ↔ r.noConfig = false ∧
    ∃ name ∈ [sharedFileName, ownFileName],
      tree.locate (r.directory.child name) = .error .denied ∨
      tree.locate (r.directory.child name) = .error .nameTooLong := by
  constructor
  · rintro ⟨e, he⟩
    obtain ⟨hn, he⟩ := files_error_iff_existing.mp he
    obtain ⟨p, hp, cause, hc, -⟩ := existing_error he
    obtain ⟨name, hm, rfl⟩ := List.mem_map.mp hp
    obtain ⟨hl, rfl | rfl⟩ := isFile_eq_error_iff.mp hc
    · exact ⟨hn, name, hm, .inl hl⟩
    · exact ⟨hn, name, hm, .inr hl⟩
  · rintro ⟨hn, name, hm, hl⟩
    have hc : ∃ cause, tree.isFile (r.directory.child name) = .error cause :=
      hl.elim (fun hl => ⟨_, isFile_eq_error_iff.mpr ⟨hl, .inl rfl⟩⟩)
        fun hl => ⟨_, isFile_eq_error_iff.mpr ⟨hl, .inr rfl⟩⟩
    obtain ⟨cause, hc⟩ := hc
    obtain ⟨e, he⟩ := existing_of_isFile (List.mem_map_of_mem hm) hc
    exact ⟨e, files_error_iff_existing.mpr ⟨hn, he⟩⟩

/-! ## All files -/

/-- The first of some files that cannot be read, and the error that it is turned down with. -/
def FirstUnreadable (tree : FileTree) (ps : List Path) (e : Error) : Prop :=
  ∃ before p after, ps = before ++ p :: after ∧ (∀ q ∈ before, Readable tree q) ∧
    Unreadable tree p e

theorem readable_or_unreadable (tree : FileTree) (p : Path) :
    Readable tree p ∨ ∃ e, Unreadable tree p e := by
  cases h : (Draft.ofFile tree p).result with
  | ok o => exact .inl (readable_of_ofFile h)
  | error e => exact .inr ⟨e, ofFile_eq_error_iff.mp h⟩

theorem Readable.not_unreadable (h : Readable tree p) : ¬ Unreadable tree p e := fun hu =>
  nomatch (ofFile_result h).symm.trans (ofFile_eq_error_iff.mpr hu)

/-- The first file is turned down, or it can be read and a later one is. -/
theorem firstUnreadable_cons {ps : List Path} : FirstUnreadable tree (p :: ps) e ↔
    Unreadable tree p e ∨ Readable tree p ∧ FirstUnreadable tree ps e := by
  constructor
  · rintro ⟨before, q, after, hps, hb, hq⟩
    cases before with
    | nil =>
      cases hps
      exact .inl hq
    | cons b before =>
      cases hps
      obtain ⟨hp, hb⟩ := List.forall_mem_cons.mp hb
      exact .inr ⟨hp, before, q, after, rfl, hb, hq⟩
  · rintro (hp | ⟨hp, before, q, after, rfl, hb, hq⟩)
    · exact ⟨[], p, ps, rfl, by simp, hp⟩
    · exact ⟨p :: before, q, after, rfl, List.forall_mem_cons.mpr ⟨hp, hb⟩, hq⟩

/-- Merging goes on over readable files and ends with the first that is not. -/
theorem mergeFiles_eq_error_iff {ls : List Source} {ps : List Path} :
    (mergeFiles tree (stacked ls) ps).result = .error e ↔ FirstUnreadable tree ps e := by
  induction ps generalizing ls with
  | nil => simp [mergeFiles, FirstUnreadable]
  | cons p ps ih =>
    rw [mergeFiles, Logged.result_bind, firstUnreadable_cons]
    rcases readable_or_unreadable tree p with hp | ⟨e', he⟩
    · rw [ofFile_result hp, ok_bind]
      cases source? tree p with
      | none => simpa [hp, hp.not_unreadable] using ih
      | some l =>
        simp only [Option.map_some, Logged.result_bind, merge_stacked, ok_bind, ih, hp,
          hp.not_unreadable, true_and, false_or]
    · have hn : ¬ Readable tree p := fun hp => hp.not_unreadable he
      rw [ofFile_eq_error_iff.mpr he, error_bind, ← ofFile_eq_error_iff, ofFile_eq_error_iff.mpr he]
      simp [hn]

/-! ## The whole of it -/

theorem freeze_error {d : Draft} (h : d.freeze = .error e) : e.isConfig = true := by
  obtain ⟨-, rfl⟩ := Draft.freeze_eq_error_iff.mp h
  rfl

/-- What goes wrong with the values is a configuration error, except for an override without a
text. -/
theorem finish_passes_iff {d : Draft} {t : Table} :
    (∃ e, finish d t = .error e ∧ e.isConfig = false) ↔
      ∃ before entry after, t = before ++ entry :: after ∧ Admissible before ∧
        Key.isKnown entry.1 ∧ entry.2.HoldsLong := by
  have hb : ∀ before : Table, (∀ b ∈ before, overrideError? b = none) ↔ Admissible before :=
    fun before => forall₂_congr fun b _ => overrideError?_eq_none_iff
  constructor
  · rintro ⟨e, he, hc⟩
    by_cases ha : Admissible t
    · have ho : d.override t = ((d.override t).1, none) := by
        rw [← (Draft.override_eq_none_iff d t).mpr ha]
      rw [finish, ho] at he
      rw [freeze_error he] at hc
      cases hc
    · obtain ⟨e', he', hf⟩ := finish_of_not_admissible d ha
      cases hf.symm.trans he
      obtain ⟨before, entry, after, rfl, he', hbefore⟩ := List.findSome?_eq_some_iff.mp he'
      refine ⟨before, entry, after, rfl, (hb before).mp hbefore, ?_⟩
      rcases overrideError?_cases he' with ⟨cause, rfl⟩ | rfl
      · exact overrideError?_eq_unwritten_iff.mp he'
      · cases hc
  · rintro ⟨before, entry, after, rfl, ha, hk, hl⟩
    refine ⟨.unwritten .tooManyDigits, finish_of_error ?_, rfl⟩
    refine List.findSome?_eq_some_iff.mpr
      ⟨before, entry, after, rfl, overrideError?_eq_unwritten_iff.mpr ⟨hk, hl⟩, (hb before).mpr ha⟩

/-- The search, the files and the values are looked at in this order. -/
theorem load_eq_error_iff : (load tree r).result = .error e ↔ r.files tree = .error e ∨
    (∃ files, r.files tree = .ok files ∧ FirstUnreadable tree files e) ∨
      r.Loads tree ∧ finish (stacked (r.layers tree)) r.overrides = .error e := by
  cases hf : r.files tree with
  | error e' =>
    have hl : ¬ r.Loads tree := by
      rintro ⟨⟨files, h⟩, -⟩
      rw [hf] at h
      cases h
    simp [load, defaults_result, hf, hl]
  | ok files =>
    by_cases hl : r.Loads tree
    · have hu : ¬ FirstUnreadable tree files e := by
        rintro ⟨before, p, after, hfs, -, hp⟩
        have hm : p ∈ r.discovered tree ++ r.extra := files_eq hf ▸ hfs ▸ by simp
        exact (hl.2 p hm).not_unreadable hp
      simp [load_of_loads hl, hl, hu]
    · have hload : (load tree r).result =
          (mergeFiles tree (stacked [defaultLayer]) files).result >>= fun d =>
            finish d r.overrides := by
        simp only [load, Logged.result_bind, defaults_result, ok_bind, Logged.result_of, hf]
      cases hm : (mergeFiles tree (stacked [defaultLayer]) files).result with
      | ok d => exact absurd ⟨⟨files, hf⟩, files_eq hf ▸ readable_of_mergeFiles hm⟩ hl
      | error e' =>
        have he : FirstUnreadable tree files e ↔ e' = e := by
          rw [← mergeFiles_eq_error_iff, hm, Except.error.injEq]
        simp [hload, hm, hl, he]

/-- Loading fails in another way than by a configuration error exactly if a settings file cannot be
looked for under its name, if the first file that cannot be read is garbled, or if the first override
that ends in an error has no text. -/
theorem load_passes_iff : (∃ e, (load tree r).result = .error e ∧ e.isConfig = false) ↔
    (∃ e, r.files tree = .error e) ∨
      ((∃ files, r.files tree = .ok files) ∧ ∃ before p after,
        r.discovered tree ++ r.extra = before ++ p :: after ∧ (∀ q ∈ before, Readable tree q) ∧
          Garbled tree p) ∨
      (r.Loads tree ∧ ∃ before entry after, r.overrides = before ++ entry :: after ∧
        Admissible before ∧ Key.isKnown entry.1 ∧ entry.2.HoldsLong) := by
  rw [← finish_passes_iff (d := stacked (r.layers tree))]
  constructor
  · rintro ⟨e, he, hc⟩
    rcases load_eq_error_iff.mp he with hf | ⟨files, hf, before, p, after, hfs, hb, hp⟩ | ⟨hl, hf⟩
    · exact .inl ⟨e, hf⟩
    · exact .inr (.inl ⟨⟨files, hf⟩, before, p, after, (files_eq hf).symm.trans hfs, hb,
        hp.isConfig_eq_false_iff.mp hc⟩)
    · exact .inr (.inr ⟨hl, e, hf, hc⟩)
  · rintro (⟨e, hf⟩ | ⟨⟨files, hf⟩, before, p, after, hfs, hb, hp⟩ | ⟨hl, e, hf, hc⟩)
    · exact ⟨e, load_eq_error_iff.mpr (.inl hf), files_error hf⟩
    · obtain ⟨e, hu, hc⟩ := hp.unreadable
      exact ⟨e, load_eq_error_iff.mpr (.inr (.inl ⟨files, hf, before, p, after,
        (files_eq hf).trans hfs, hb, hu⟩)), hc⟩
    · exact ⟨e, load_eq_error_iff.mpr (.inr (.inr ⟨hl, hf⟩)), hc⟩

end RecordSchema.Settings
