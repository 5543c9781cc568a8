import RecordSchema.Proofs.Settings.Layers
import RecordSchema.Proofs.Settings.Overrides

/-! # Which layer decides

The defaults set every key, so settings can always be made of the layers that were read. A key has
its override, or else what the last layer that sets it says.
-/
namespace RecordSchema.Settings
variable {tree : FileTree} {r : Request} {ls : List Source} {t : Table}

namespace Request

/-- The settings files that lie in the directory of a request. -/
def discovered (r : Request) (tree : FileTree) : List Path :=
  if r.noConfig then []
  else [r.directory.child sharedFileName, r.directory.child ownFileName].filter fun p =>
    decide (tree.isFile p = .ok true)

/-- The tables of the defaults and of all files that have one, the lowest first. -/
def layers (r : Request) (tree : FileTree) : List Source :=
  defaultLayer :: (r.discovered tree ++ r.extra).filterMap (source? tree)

/-- It can be told which files are there, and all of them can be read. -/
def Loads (r : Request) (tree : FileTree) : Prop :=
  (∃ files, r.files tree = .ok files) ∧
    ∀ p ∈ r.discovered tree ++ r.extra, Readable tree p

end Request

/-- The settings that layers and overrides amount to. -/
def settled (ls : List Source) (t : Table) : Settings :=
  let value := fun k => ((override? t k).or (lastSetting? ls k)).getD ""
  ⟨value .record, value .tagKey, value .outputType, value .inputType, ls.map (·.name),
    ls.flatMap Source.remarks⟩

theorem existing_eq {ps files : List Path} (h : existing tree ps = .ok files) :
    files = ps.filter fun p => decide (tree.isFile p = .ok true) := by
  induction ps generalizing files with
  | nil => cases h; rfl
  | cons p ps ih =>
    rw [existing] at h
    cases hp : tree.isFile p with
    | error e => rw [hp] at h; cases h
    | ok b =>
      rw [hp] at h
      cases b with
      | false => simpa [hp] using ih h
      | true =>
        cases hr : existing tree ps with
        | error e => rw [hr] at h; cases h
        | ok rest =>
          rw [hr] at h
          cases h
          simp [hp, ← ih hr]

theorem files_eq {files : List Path} (h : r.files tree = .ok files) :
    files = r.discovered tree ++ r.extra := by
  unfold Request.files at h
  unfold Request.discovered
  cases hc : r.noConfig with
  | true =>
    rw [hc] at h
    cases h
    rfl
  | false =>
    rw [hc] at h
    cases he : existing tree [r.directory.child sharedFileName, r.directory.child ownFileName] with
    | error e => rw [he] at h; cases h
    | ok found =>
      rw [he] at h
      cases h
      rw [existing_eq he]
      rfl

theorem load_of_loads (h : r.Loads tree) :
    (load tree r).result = finish (stacked (r.layers tree)) r.overrides := by
  obtain ⟨⟨files, hf⟩, hr⟩ := h
  obtain rfl := files_eq hf
  simp only [load, Logged.result_bind, defaults_result, ok_bind, Logged.result_of, hf,
    mergeFiles_of_readable hr]
  rfl

theorem loads_of_ok {s : Settings} (h : (load tree r).result = .ok s) : r.Loads tree := by
  simp only [load, Logged.result_bind, defaults_result, ok_bind, Logged.result_of] at h
  obtain ⟨files, hf, h⟩ := bind_eq_ok_iff.mp h
  obtain ⟨d, hm, -⟩ := bind_eq_ok_iff.mp h
  exact ⟨⟨files, hf⟩, files_eq hf ▸ readable_of_mergeFiles hm⟩

theorem finish_of_admissible (hn : t.keys.Nodup) (ha : Admissible t)
    (hs : ∀ k, (lastSetting? ls k).isSome) : finish (stacked ls) t = .ok (settled ls t) := by
  have hg : ∀ k, ((stacked ls).override t).1.get k =
      some (((override? t k).or (lastSetting? ls k)).getD "") := by
    intro k
    obtain ⟨v, hv⟩ := Option.isSome_iff_exists.mp (hs k)
    rw [Draft.override_get _ hn ha, stacked_get, hv]
    cases override? t k <;> rfl
  have hf := Draft.freeze_of_set hg
  rw [Draft.override_sources, Draft.override_notices] at hf
  have he := (Draft.override_eq_none_iff (stacked ls) t).mpr ha
  unfold finish
  split
  · rename_i e ho
    rw [ho] at he
    cases he
  · rename_i d ho
    rw [ho] at hf
    exact hf

/-- An override that ends in an error ends everything with it. -/
theorem finish_of_error {d : Draft} {e : Error} (he : t.findSome? overrideError? = some e) :
    finish d t = .error e := by
  rw [← Draft.override_error d] at he
  have ho : d.override t = ((d.override t).1, some e) := by rw [← he]
  rw [finish, ho]

/-- Overrides have no part in which files load. -/
theorem loads_with_overrides (os : Table) :
    Request.Loads { r with overrides := os } tree ↔ r.Loads tree := Iff.rfl

theorem load_of_overrideError {os : Table} {e : Error} (hl : r.Loads tree)
    (he : os.findSome? overrideError? = some e) :
    (load tree { r with overrides := os }).result = .error e := by
  rw [load_of_loads ((loads_with_overrides os).mpr hl)]
  exact finish_of_error he

theorem finish_of_not_admissible (d : Draft) (ha : ¬ Admissible t) :
    ∃ e, t.findSome? overrideError? = some e ∧ finish d t = .error e := by
  rw [← Draft.override_eq_none_iff d, Draft.override_error] at ha
  obtain ⟨e, he⟩ := Option.ne_none_iff_exists'.mp ha
  exact ⟨e, he, finish_of_error he⟩

/-- The defaults leave no key open. -/
theorem lastSetting?_layers (r : Request) (tree : FileTree) (k : Key) :
    (lastSetting? (r.layers tree) k).isSome := by
  have hd : (lastSetting? [defaultLayer] k).isSome := by
    cases k <;> decide
  rw [Request.layers, ← List.singleton_append, lastSetting?_append, Option.isSome_or, hd,
    Bool.or_true]

/-- Where all layers load, settings come of them unless an override ends in an error. -/
theorem load_eq_ok_iff (hn : r.overrides.keys.Nodup) {s : Settings} :
    (load tree r).result = .ok s ↔
      r.Loads tree ∧ Admissible r.overrides ∧ s = settled (r.layers tree) r.overrides := by
  constructor
  · intro h
    have hl := loads_of_ok h
    rw [load_of_loads hl] at h
    by_cases ha : Admissible r.overrides
    · rw [finish_of_admissible hn ha (lastSetting?_layers r tree)] at h
      cases h
      exact ⟨hl, ha, rfl⟩
    · obtain ⟨e, -, he⟩ := finish_of_not_admissible (stacked (r.layers tree)) ha
      rw [he] at h
      cases h
  · rintro ⟨hl, ha, rfl⟩
    rw [load_of_loads hl, finish_of_admissible hn ha (lastSetting?_layers r tree)]

/-- The order of the overrides is of no account. -/
theorem load_perm {os : Table} (hn : r.overrides.keys.Nodup) (h : os.Perm r.overrides)
    (s : Settings) :
    (load tree { r with overrides := os }).result = .ok s ↔ (load tree r).result = .ok s := by
  have hn' : os.keys.Nodup := (h.map Prod.fst).nodup_iff.mpr hn
  have hs : settled (r.layers tree) os = settled (r.layers tree) r.overrides := by
    simp only [settled, override?_perm hn h]
  have ha : Admissible os ↔ Admissible r.overrides := by
    simp only [Admissible, h.mem_iff]
  rw [load_eq_ok_iff hn, load_eq_ok_iff (r := { r with overrides := os }) hn', ha, ← hs]
  rfl

theorem settled_get (ls : List Source) (t : Table) (k : Key) :
    (settled ls t).get k = ((override? t k).or (lastSetting? ls k)).getD "" := by
  cases k <;> rfl

/-- Where all layers load, the error is that of the first override that ends in one. -/
theorem load_eq_error_iff_of_loads (hn : r.overrides.keys.Nodup) (hl : r.Loads tree) {e : Error} :
    (load tree r).result = .error e ↔ r.overrides.findSome? overrideError? = some e := by
  constructor
  · intro h
    by_cases ha : Admissible r.overrides
    · cases ((load_eq_ok_iff hn).mpr ⟨hl, ha, rfl⟩).symm.trans h
    · obtain ⟨e', he, hf⟩ := finish_of_not_admissible (stacked (r.layers tree)) ha
      rw [load_of_loads hl, hf] at h
      cases h
      exact he
  · exact load_of_overrideError hl

/-- The error of an override that has a text, if it is not absent and its key is unknown. -/
theorem overrideError?_of_hasText {entry : String × Value} {e : Error} (h : entry.2.HasText) :
    overrideError? entry = some e ↔
      entry.2 ≠ .null ∧ Key.isKnown entry.1 = false ∧ e = .unknownOverride entry.1 := by
  obtain ⟨key, v⟩ := entry
  obtain ⟨text, ht⟩ := Value.hasText_iff_toText.mp h
  by_cases hv : v = .null
  · subst hv
    simp [overrideError?_null]
  · rw [overrideError?_of_ne _ hv, ht]
    cases Key.isKnown key <;> simp [hv, eq_comm]

/-- Each value of loaded settings is that of its override or else that of the last layer that sets
it. Where all layers load and all overrides have a text, only an override under an unknown key is an
error: the first of them, whatever order the others stand in. -/
theorem load_by_layers (tree : FileTree) (r : Request) (hn : r.overrides.keys.Nodup) :
    (∀ s, (load tree r).result = .ok s → r.Loads tree ∧
      (∀ k, (∃ v, r.overrides.get? k.name = some v ∧ v ≠ .null ∧ v.toText = .ok (s.get k)) ∨
        ((∀ v, r.overrides.get? k.name = some v → v = .null) ∧
          ∃ before l after text, r.layers tree = before ++ l :: after ∧
            l.table.get? k.name = some (.text text) ∧ Text.strip text ≠ "" ∧
            s.get k = Text.strip text ∧
            ∀ m ∈ after, ∀ later, m.table.get? k.name = some (.text later) →
              Text.strip later = "")) ∧
      s.sources = (r.layers tree).map (·.name) ∧
      s.notices = (r.layers tree).flatMap Source.remarks) ∧
    (r.Loads tree → (∀ entry ∈ r.overrides, entry.2.HasText) →
      ((∃ e, (load tree r).result = .error e) ↔
        ∃ entry ∈ r.overrides, entry.2 ≠ .null ∧ Key.isKnown entry.1 = false) ∧
      ∀ e, (load tree r).result = .error e → e.isConfig ∧
        ∃ before entry after, r.overrides = before ++ entry :: after ∧
          (∀ b ∈ before, b.2 ≠ .null → Key.isKnown b.1) ∧ entry.2 ≠ .null ∧
          Key.isKnown entry.1 = false ∧ e = .unknownOverride entry.1) ∧
    ∀ os, os.Perm r.overrides → ∀ s,
      (load tree { r with overrides := os }).result = .ok s ↔ (load tree r).result = .ok s := by
  refine ⟨fun s h => ?_, fun hl ht => ?_, fun os h => load_perm hn h⟩
  · obtain ⟨hl, ha, rfl⟩ := (load_eq_ok_iff hn).mp h
    refine ⟨hl, fun k => ?_, rfl, rfl⟩
    rw [settled_get]
    cases ho : override? r.overrides k with
    | some text =>
      obtain ⟨v, hv, hne, ht⟩ := override?_eq_some_iff.mp ho
      exact .inl ⟨v, hv, hne, ht⟩
    | none =>
      obtain ⟨text, ht⟩ := Option.isSome_iff_exists.mp (lastSetting?_layers r tree k)
      obtain ⟨before, l, after, hls, hv, hafter⟩ := lastSetting?_eq_some_iff.mp ht
      obtain ⟨raw, hraw, hne, rfl⟩ := setting?_eq_some_iff.mp hv
      rw [ht]
      exact .inr ⟨(override?_eq_none_iff ha).mp ho, before, l, after, raw, hls, hraw, hne, rfl,
        fun m hm => setting?_eq_none_iff.mp (hafter m hm)⟩
  · simp only [load_eq_error_iff_of_loads hn hl]
    constructor
    · rw [← Option.isSome_iff_exists, List.findSome?_isSome_iff]
      refine exists_congr fun entry => and_congr_right fun hm => ?_
      simp [Option.isSome_iff_exists, overrideError?_of_hasText (ht entry hm)]
    · intro e he
      obtain ⟨before, entry, after, ho, he, hb⟩ := List.findSome?_eq_some_iff.mp he
      have hm : ∀ b ∈ before, b ∈ r.overrides := fun b hb => ho ▸ List.mem_append_left _ hb
      obtain ⟨hv, hk, rfl⟩ := (overrideError?_of_hasText (ht entry (ho ▸ by simp))).mp he
      exact ⟨rfl, before, entry, after, ho,
        fun b hb' hne => ((overrideError?_eq_none_iff.mp (hb b hb')) hne).1, hv, hk, rfl⟩

/-- A directory with both settings files; what the second one has for the tag key is blank. -/
def workshop : FileTree where
  files := [
    (["shop", "pyproject.toml"], .text "[tool.confql]\nrecord = \" a:B \"\ntag_key = \"json\""),
    (["shop", "confql.toml"], .text "tag_key = \" \"\noutput_type = \"Out\""),
    (["shop", "more.toml"], .text "record = 1\noutput_type = \"More\"")]
  directories := []
  work := ["shop"]

def workshopRequest : Request where
  directory := ⟨"", []⟩
  extra := [⟨"", ["more.toml"]⟩]
  overrides := [("input_type", .int 7), ("speed", .null)]

theorem workshop_load : (load workshop workshopRequest).result =
    .ok ⟨"a:B", "json", "More", "7", ["<defaults>", "pyproject.toml", "confql.toml", "more.toml"],
      [.warning ("confql.toml: ignoring 'tag_key', expected a non-empty string (got ' ')"),
        .warning ("more.toml: ignoring 'record', expected a non-empty string (got 1)")]⟩ := by
  decide +kernel

theorem workshop_by_layers :
    workshopRequest.overrides.keys.Nodup ∧ ∃ s, (load workshop workshopRequest).result = .ok s ∧
      (s.record, s.tagKey, s.outputType, s.inputType) = ("a:B", "json", "More", "7") ∧
      s.sources = ["<defaults>", "pyproject.toml", "confql.toml", "more.toml"] ∧
      s.sources = (workshopRequest.layers workshop).map (·.name) ∧
      s.notices = (workshopRequest.layers workshop).flatMap Source.remarks := by
  have hn : workshopRequest.overrides.keys.Nodup := by decide
  exact ⟨hn, _, workshop_load, rfl, rfl,
    ((load_by_layers workshop workshopRequest hn).1 _ workshop_load).2.2⟩

theorem longOverride_error {n : Int} (hn : Text.isTooLong n = true) (t : Table) :
    (("record", Value.int n) :: t).findSome? overrideError? =
      some (.unwritten .tooManyDigits) := by
  have hr : overrideError? ("record", .int n) = some (.unwritten .tooManyDigits) :=
    overrideError?_eq_unwritten_iff.mpr ⟨rfl, .int hn⟩
  rw [List.findSome?_cons, hr]

/-- Of two overrides with unknown keys the first one is named. A number that is too long is an error
under a known key as well, unless an unknown key stands in front of it. -/
theorem overrideErrors_in_order :
    (List.Perm [("a", Value.text "1"), ("b", .text "1")] [("b", .text "1"), ("a", .text "1")] ∧
      (load workshop { workshopRequest with
        overrides := [("b", .text "1"), ("a", .text "1")] }).result =
          .error (.unknownOverride "b") ∧
      (load workshop { workshopRequest with
        overrides := [("a", .text "1"), ("b", .text "1")] }).result =
          .error (.unknownOverride "a")) ∧
    Key.isKnown "record" ∧
      (load workshop { workshopRequest with
        overrides := [("record", .int Text.leastLong)] }).result =
          .error (.unwritten .tooManyDigits) ∧
      (load workshop { workshopRequest with
        overrides := [("record", .int Text.leastLong), ("a", .text "1")] }).result =
          .error (.unwritten .tooManyDigits) ∧
      (load workshop { workshopRequest with
        overrides := [("a", .text "1"), ("record", .int Text.leastLong)] }).result =
          .error (.unknownOverride "a") := by
  have hl : workshopRequest.Loads workshop := loads_of_ok workshop_load
  have hs : ∀ {os : Table} {e : Error}, os.findSome? overrideError? = some e →
      (load workshop { workshopRequest with overrides := os }).result = .error e :=
    load_of_overrideError hl
  have hlong := longOverride_error Text.isTooLong_leastLong
  generalize (Text.leastLong : Int) = n at hlong ⊢
  exact ⟨⟨.swap .., hs rfl, hs rfl⟩, rfl, hs (hlong _), hs (hlong _), hs rfl⟩

end RecordSchema.Settings
