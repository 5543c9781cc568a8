import RecordSchema.Proofs.Settings.Precedence
import RecordSchema.Proofs.Text.Strip
import RecordSchema.Proofs.Toml.RoundTrip
import RecordSchema.Terminal.Console

/-! # Loading settings from what they print as

Settings print as a flat table of texts, which is read back as it was written. What a file says is
stripped of blanks, and an override is not: printed settings load as themselves exactly if every
override is a text that stripping keeps.
-/
namespace RecordSchema

namespace Text

theorem unifyNewlines_eq_self {cs : List Char} (h : '\r' ∉ cs) : unifyNewlines cs = cs := by
  induction cs with
  | nil => rfl
  | cons c cs ih =>
    have hc : c ≠ '\r' := fun e => h (by simp [e])
    have hcs : '\r' ∉ cs := fun hm => h (List.mem_cons_of_mem c hm)
    rw [unifyNewlines, ih hcs]
    · exact fun _ e => absurd e hc
    · exact hc

end Text

namespace Settings
variable {home : FileTree} {dir : Path} {s : Settings} {text : String}

/-- A directory holds its own settings file with a given text, and no shared one. -/
structure HoldsOnly (home : FileTree) (dir : Path) (text : String) : Prop where
  noShared : home.isFile (dir.child sharedFileName) = .ok false
  own : home.isFile (dir.child ownFileName) = .ok true
  content : ∃ c, home.read (dir.child ownFileName) = .ok c ∧ c.decode = .ok text

/-- A text that a settings file can set as it is. -/
def Lasting (text : String) : Prop := text ≠ "" ∧ Text.strip text = text

/-- The text that the defaults have under a key. -/
def defaultText (k : Key) : String := (lastSetting? [defaultLayer] k).getD ""

/-! ## The printed text -/

theorem toTable_eq_ofTexts (s : Settings) :
    s.toTable = .ofTexts (Key.all.map fun k => (k.name, s.get k)) := by
  simp [toTable, Table.ofTexts]

theorem keys_toTable (s : Settings) : s.toTable.keys = Key.all.map Key.name := rfl

theorem nodup_names : (Key.all.map Key.name).Nodup := by decide

/-- Printed settings are read as the table that they were printed from. -/
theorem parse_toToml (s : Settings) : Toml.parse s.toToml = .ok s.toTable := by
  rw [toToml, toTable_eq_ofTexts]
  exact Toml.parse_render nodup_names

theorem control_of_mem_toToml {a : Char} (h : a ∈ s.toToml.toList) (hc : Toml.isControl a = true) :
    a = '\n' := by
  rw [toToml, toTable_eq_ofTexts] at h
  exact Toml.eq_newline_of_mem_render h hc

theorem unifyNewlines_toToml (s : Settings) :
    Text.unifyNewlines s.toToml.toList = s.toToml.toList :=
  Text.unifyNewlines_eq_self fun h => absurd (control_of_mem_toToml h (by decide)) (by decide)

/-- Every console prints settings as they are: there is no control sequence in them. -/
theorem put_toToml (c : Terminal.Console) (s : Settings) : c.put s.toToml false = s.toToml := by
  have he : Terminal.escape ∉ s.toToml.toList := fun h =>
    absurd (control_of_mem_toToml h (by decide)) (by decide)
  have hp : Terminal.plain s.toToml = s.toToml := by
    rw [Terminal.plain, Terminal.plainFrom_eq_self he, String.ofList_toList]
  cases hc : c.colour <;> simp [Terminal.Console.put, hc, hp]

/-! ## The table that was printed, as a layer -/

theorem get?_toTable (s : Settings) (k : Key) : s.toTable.get? k.name = some (.text (s.get k)) := by
  rw [Table.get?_eq_some_iff (keys_toTable s ▸ nodup_names)]
  exact List.mem_map.mpr ⟨k, Key.mem_all k, rfl⟩

/-- All values of settings are texts, which can be shown. -/
theorem toTable_tellable (s : Settings) : Tellable s.toTable := by
  refine tellable_of_hasText fun entry he => ?_
  obtain ⟨k, -, rfl⟩ := List.mem_map.mp he
  exact ⟨_, rfl⟩

theorem setting?_toTable (s : Settings) (k : Key) : setting? s.toTable k =
    if Text.strip (s.get k) = "" then none else some (Text.strip (s.get k)) := by
  rw [setting?, get?_toTable, Option.bind_some, usableText?]

theorem unknownRemarks_toTable (source : String) (s : Settings) :
    unknownRemarks source s.toTable = [] := by
  have hf : s.toTable.filter (fun e => !Key.isKnown e.1) = [] := by
    rw [List.filter_eq_nil_iff]
    intro e he
    obtain ⟨k, -, rfl⟩ := List.mem_map.mp he
    simp [Key.isKnown_name]
  rw [unknownRemarks, hf]
  rfl

theorem ignoredRemark?_toTable_eq_none_iff {source : String} {k : Key} :
    ignoredRemark? source s.toTable k = none ↔ Text.strip (s.get k) ≠ "" := by
  have ht : (Value.text (s.get k)).shown = .ok (Text.quoted (s.get k)) := rfl
  rw [ignoredRemark?, get?_toTable]
  by_cases hs : Text.strip (s.get k) = "" <;>
    simp [usableText?, hs, ht, Option.filter_some, Except.toOption]

/-- Printed settings are worth a remark exactly where a value is blank. -/
theorem remarks_toTable_eq_nil_iff (source : String) (s : Settings) :
    Source.remarks ⟨source, s.toTable⟩ = [] ↔ ∀ k, Text.strip (s.get k) ≠ "" := by
  rw [Source.remarks, unknownRemarks_toTable, List.nil_append, List.filterMap_eq_nil_iff]
  simp only [ignoredRemark?_toTable_eq_none_iff]
  exact ⟨fun h k => h k (Key.mem_all k), fun h k _ => h k⟩

/-- What the layers set is never blank and has no blanks at its ends. -/
theorem lasting_of_lastSetting? {ls : List Source} {k : Key} (h : lastSetting? ls k = some text) :
    Lasting text := by
  obtain ⟨before, l, after, -, hl, -⟩ := lastSetting?_eq_some_iff.mp h
  obtain ⟨raw, -, hne, rfl⟩ := setting?_eq_some_iff.mp hl
  exact ⟨hne, Text.strip_strip raw⟩

/-! ## Loading -/

theorem name_child (p : Path) (name : String) : (p.child name).name = name := by
  simp [Path.child, Path.name]

theorem readFile_of_decode {p : Path} {c : Content} (hc : home.read p = .ok c)
    (hd : c.decode = .ok s.toToml) : (readFile home p).result = .ok s.toTable := by
  rw [readFile, hc]
  simp only [hd, unifyNewlines_toToml, String.ofList_toList, parse_toToml, Logged.result_pure]

namespace HoldsOnly

theorem discovered (h : HoldsOnly home dir text) :
    Request.discovered { directory := dir } home = [dir.child ownFileName] := by
  simp [Request.discovered, h.noShared, h.own]

theorem readable (h : HoldsOnly home dir s.toToml) :
    (readFile home (dir.child ownFileName)).result = .ok s.toTable := by
  obtain ⟨c, hc, hd⟩ := h.content
  exact readFile_of_decode hc hd

/-- The layers are the defaults and, above them, the table that was printed. -/
theorem layers (h : HoldsOnly home dir s.toToml) : Request.layers { directory := dir } home =
    [defaultLayer, ⟨(dir.child ownFileName).text, s.toTable⟩] := by
  have ht : tableOf? s.toTable (dir.child ownFileName) = some s.toTable := by
    rw [tableOf?, name_child, if_neg (by decide)]
  have hs : source? home (dir.child ownFileName) =
      some ⟨(dir.child ownFileName).text, s.toTable⟩ := by
    rw [source?_of_ok h.readable, ht]
    rfl
  rw [Request.layers, h.discovered, List.append_nil, List.filterMap_cons_some hs]
  rfl

theorem loads (h : HoldsOnly home dir s.toToml) : Request.Loads { directory := dir } home := by
  constructor
  · refine ⟨[dir.child ownFileName], ?_⟩
    simp [Request.files, existing, h.noShared, h.own]
  · intro p hp
    rw [h.discovered, List.append_nil, List.mem_singleton] at hp
    rw [hp]
    refine ⟨s.toTable, h.readable, fun t ht => ?_⟩
    rw [tableOf?, name_child, if_neg (by decide), Option.mem_some] at ht
    exact ht ▸ toTable_tellable s

/-- Printed settings always load: a value that is left blank gives way to the default, and all
others are stripped. -/
theorem load_eq (h : HoldsOnly home dir s.toToml) :
    ∃ s', (load home { directory := dir }).result = .ok s' ∧
      (∀ k, s'.get k =
        if Text.strip (s.get k) = "" then defaultText k else Text.strip (s.get k)) ∧
      (s'.notices = [] ↔ ∀ k, Text.strip (s.get k) ≠ "") := by
  have hn : (Request.overrides { directory := dir }).keys.Nodup := List.nodup_nil
  have ha : Admissible (Request.overrides { directory := dir }) := List.forall_mem_nil _
  refine ⟨_, (load_eq_ok_iff hn).mpr ⟨h.loads, ha, rfl⟩, fun k => ?_, ?_⟩
  · have ht : lastSetting? [⟨(dir.child ownFileName).text, s.toTable⟩] k =
        setting? s.toTable k := by
      simp [lastSetting?, Source.setting?]
    rw [settled_get, h.layers, ← List.singleton_append, lastSetting?_append, ht, setting?_toTable]
    split <;> rfl
  · have hd : defaultLayer.remarks = [] := by decide
    rw [h.layers, ← remarks_toTable_eq_nil_iff (dir.child ownFileName).text]
    simp [settled, hd]

end HoldsOnly

/-- Only overrides can put a text into loaded settings that no file could put there. -/
theorem lasting_iff (tree : FileTree) (r : Request) (k : Key) :
    Lasting ((settled (r.layers tree) r.overrides).get k) ↔
      ∀ given, override? r.overrides k = some given → Lasting given := by
  rw [settled_get]
  cases ho : override? r.overrides k with
  | some given => simp
  | none =>
    obtain ⟨v, hv⟩ := Option.isSome_iff_exists.mp (lastSetting?_layers r tree k)
    rw [hv]
    refine ⟨fun _ given hg => ?_, fun _ => lasting_of_lastSetting? hv⟩
    cases hg

/-- Printed settings load again, wherever they are stored on their own. They come back as they were,
and without a remark, exactly if no override is blank or has blanks at its ends. -/
theorem reload_eq_iff (tree : FileTree) (r : Request) (hn : r.overrides.keys.Nodup) (s : Settings)
    (hs : (load tree r).result = .ok s) (hh : HoldsOnly home dir s.toToml) :
    (∀ c : Terminal.Console, c.put s.toToml false = s.toToml) ∧
    ∃ s', (load home { directory := dir }).result = .ok s' ∧
      (∀ k, s'.get k =
        if Text.strip (s.get k) = "" then defaultText k else Text.strip (s.get k)) ∧
      (((∀ k, s'.get k = s.get k) ∧ s'.notices = []) ↔
        ∀ k given, override? r.overrides k = some given →
          given ≠ "" ∧ Text.strip given = given) := by
  obtain ⟨-, -, hset⟩ := (load_eq_ok_iff hn).mp hs
  obtain ⟨s', hl, hg, hr⟩ := hh.load_eq
  have hlast : ((∀ k, s'.get k = s.get k) ∧ s'.notices = []) ↔ ∀ k, Lasting (s.get k) := by
    constructor
    · rintro ⟨he, hnil⟩ k
      have hne := hr.mp hnil k
      have hk := he k
      rw [hg k, if_neg hne] at hk
      exact ⟨hk ▸ hne, hk⟩
    · intro h
      have hne : ∀ k, Text.strip (s.get k) ≠ "" := fun k => (h k).2.symm ▸ (h k).1
      exact ⟨fun k => by rw [hg k, if_neg (hne k), (h k).2], hr.mpr hne⟩
  refine ⟨fun c => put_toToml c s, s', hl, hg, ?_⟩
  rw [hlast, hset]
  exact forall_congr' (lasting_iff tree r)

/-- A directory with nothing but one settings file. -/
def soleFile (text : String) : FileTree where
  files := [([ownFileName], .text text)]
  directories := []
  work := []

theorem soleFile_holdsOnly (text : String) : HoldsOnly (soleFile text) ⟨"", []⟩ text where
  noShared := rfl
  own := rfl
  content := ⟨.text text, rfl, rfl⟩

def paddedRequest : Request where
  directory := ⟨"", []⟩
  overrides := [("tag_key", .text " json ")]

def paddedSettings : Settings where
  record := defaultRecordPath
  tagKey := " json "
  outputType := "Out"
  inputType := View.defaultInputName
  sources := [defaultSource, ownFileName]
  notices := []

/-- Of two texts with blanks at their ends, the one from a file comes back and the override does
not. -/
theorem paddedTagKey_reload :
    paddedRequest.overrides.keys.Nodup ∧
    ∃ s, (load (soleFile "output_type = \" Out \"") paddedRequest).result = .ok s ∧
      HoldsOnly (soleFile s.toToml) ⟨"", []⟩ s.toToml ∧
      (s.tagKey, s.outputType) = (" json ", "Out") ∧
      ∃ s', (load (soleFile s.toToml) { directory := ⟨"", []⟩ }).result = .ok s' ∧
        (s'.tagKey, s'.outputType) = ("json", "Out") ∧
        ¬ ((∀ k, s'.get k = s.get k) ∧ s'.notices = []) := by
  have hn : paddedRequest.overrides.keys.Nodup := by decide
  have hs : (load (soleFile "output_type = \" Out \"") paddedRequest).result =
      .ok paddedSettings := by
    decide +kernel
  have hh := soleFile_holdsOnly paddedSettings.toToml
  obtain ⟨-, s', hl, hg, hi⟩ := reload_eq_iff (soleFile "output_type = \" Out \"") paddedRequest hn
    paddedSettings hs hh
  have ho : override? paddedRequest.overrides .tagKey = some " json " := by decide
  have ht : s'.tagKey = "json" := (hg .tagKey).trans (by decide)
  have hu : s'.outputType = "Out" := (hg .outputType).trans (by decide)
  refine ⟨hn, paddedSettings, hs, hh, rfl, s', hl, by rw [ht, hu], fun h => ?_⟩
  exact absurd (hi.mp h .tagKey " json " ho).2 (by decide)

end Settings

end RecordSchema
