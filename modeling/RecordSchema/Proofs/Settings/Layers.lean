import RecordSchema.Proofs.Settings.Drafts
import RecordSchema.Settings.Load

/-! # Layers of settings

Merging drafts in order amounts to stacking the tables that they come from: each key has what the
last table that sets it says, and the names and the remarks of all tables are kept in order.
-/
namespace RecordSchema.Settings
variable {ε : Type} {tree : FileTree} {ls : List Source} {k : Key}

def defaultLayer : Source := ⟨defaultSource, defaultTable⟩

/-- What the last of some tables that sets a key says. -/
def lastSetting? (ls : List Source) (k : Key) : Option String :=
  ls.reverse.findSome? fun l => l.setting? k

/-- The draft that stands for some tables, the last of them on top. -/
def stacked (ls : List Source) : Draft where
  record := lastSetting? ls .record
  tagKey := lastSetting? ls .tagKey
  outputType := lastSetting? ls .outputType
  inputType := lastSetting? ls .inputType
  sources := ls.map (·.name)
  notices := ls.flatMap Source.remarks

/-- The settings table of a file, if it can be read and has one. -/
def source? (tree : FileTree) (p : Path) : Option Source :=
  match (readFile tree p).result with
  | .ok entries => (tableOf? entries p).map fun t => ⟨p.text, t⟩
  | .error _ => none

/-- A file can be read, and whatever its settings table cannot use can be shown. -/
def Readable (tree : FileTree) (p : Path) : Prop :=
  ∃ entries, (readFile tree p).result = .ok entries ∧ ∀ t ∈ tableOf? entries p, Tellable t

theorem lastSetting?_append (ls ms : List Source) (k : Key) :
    lastSetting? (ls ++ ms) k = (lastSetting? ms k).or (lastSetting? ls k) := by
  rw [lastSetting?, List.reverse_append, List.findSome?_append]
  rfl

/-- The last table that sets a key decides; the tables after it do not set the key. -/
theorem lastSetting?_eq_some_iff {v : String} : lastSetting? ls k = some v ↔
    ∃ before l after, ls = before ++ l :: after ∧ l.setting? k = some v ∧
      ∀ m ∈ after, m.setting? k = none := by
  rw [lastSetting?, List.findSome?_eq_some_iff]
  constructor
  · rintro ⟨after, l, before, hl, hv, ha⟩
    refine ⟨before.reverse, l, after.reverse, ?_, hv, fun m hm => ha m (List.mem_reverse.mp hm)⟩
    rw [← List.reverse_reverse ls, hl]
    simp
  · rintro ⟨before, l, after, rfl, hv, ha⟩
    exact ⟨after.reverse, l, before.reverse, by simp, hv, fun m hm => ha m (List.mem_reverse.mp hm)⟩

@[simp] theorem stacked_get (ls : List Source) (k : Key) :
    (stacked ls).get k = lastSetting? ls k := by
  cases k <;> rfl

theorem ofTable_eq_stacked {t : Table} (h : Tellable t) (source : String) :
    (Draft.ofTable t source).result = .ok (stacked [⟨source, t⟩]) := by
  rw [Draft.ofTable_result h]
  simp [stacked, lastSetting?, Source.setting?]

theorem defaultTable_tellable : Tellable defaultTable :=
  tellable_of_hasText (by decide)

theorem defaults_result : Draft.defaults.result = .ok (stacked [defaultLayer]) := by
  rw [Draft.defaults, Logged.result_bind, Logged.result_write, ok_bind,
    ofTable_eq_stacked defaultTable_tellable, defaultLayer]

/-- Merging puts the tables of one draft on top of those of the other. -/
theorem merge_stacked (ls ms : List Source) :
    ((stacked ls).merge (stacked ms) : Logged ε Draft).result = .ok (stacked (ls ++ ms)) := by
  have hs : (stacked ls).overlay (stacked ms) = stacked (ls ++ ms) := by
    refine Draft.ext_get (fun k => ?_) List.map_append.symm List.flatMap_append.symm
    rw [Draft.overlay_get, stacked_get, stacked_get, stacked_get, lastSetting?_append]
  rw [Draft.merge_result, hs]

theorem source?_of_ok {p : Path} {entries : Table} (h : (readFile tree p).result = .ok entries) :
    source? tree p = (tableOf? entries p).map fun t => ⟨p.text, t⟩ := by
  rw [source?, h]

theorem ofFile_result {p : Path} (h : Readable tree p) :
    (Draft.ofFile tree p).result = .ok ((source? tree p).map fun l => stacked [l]) := by
  obtain ⟨entries, h, ht⟩ := h
  rw [Draft.ofFile, source?_of_ok h, Logged.result_bind, h, ok_bind]
  cases hs : tableOf? entries p with
  | none => rfl
  | some t =>
    simp only [Logged.result_bind, Logged.result_write, ok_bind, ofTable_eq_stacked (ht t hs)]
    rfl

theorem readable_of_ofFile {p : Path} {o : Option Draft}
    (h : (Draft.ofFile tree p).result = .ok o) : Readable tree p := by
  rw [Draft.ofFile, Logged.result_bind] at h
  obtain ⟨entries, hr, h⟩ := bind_eq_ok_iff.mp h
  refine ⟨entries, hr, fun t ht k hk => ?_⟩
  have he : (Draft.ofTable t p.text).result = .error (.unwritten .tooManyDigits) :=
    Draft.ofTable_eq_error_iff.mpr ⟨rfl, k, hk⟩
  rw [Option.mem_def.mp ht] at h
  simp only [Logged.result_bind, Logged.result_write, ok_bind, he] at h
  cases h

/-- Files without a settings table leave no trace; the tables of the others are put on top. -/
theorem mergeFiles_of_readable {ps : List Path} (h : ∀ p ∈ ps, Readable tree p)
    (ls : List Source) :
    (mergeFiles tree (stacked ls) ps).result =
      .ok (stacked (ls ++ ps.filterMap (source? tree))) := by
  induction ps generalizing ls with
  | nil => simp [mergeFiles]
  | cons p ps ih =>
    obtain ⟨hp, hps⟩ := List.forall_mem_cons.mp h
    rw [mergeFiles, Logged.result_bind, ofFile_result hp, ok_bind]
    cases hs : source? tree p with
    | none =>
      rw [List.filterMap_cons_none hs]
      exact ih hps ls
    | some l =>
      rw [List.filterMap_cons_some hs, ← List.singleton_append, ← List.append_assoc,
        ← ih hps (ls ++ [l])]
      simp only [Option.map_some, Logged.result_bind, merge_stacked, ok_bind]

theorem readable_of_mergeFiles {ps : List Path} {d d' : Draft}
    (h : (mergeFiles tree d ps).result = .ok d') : ∀ p ∈ ps, Readable tree p := by
  induction ps generalizing d with
  | nil => simp
  | cons p ps ih =>
    rw [mergeFiles, Logged.result_bind] at h
    obtain ⟨o, ho, h⟩ := bind_eq_ok_iff.mp h
    refine List.forall_mem_cons.mpr ⟨readable_of_ofFile ho, ?_⟩
    cases o with
    | none => exact ih h
    | some layer =>
      simp only [Logged.result_bind] at h
      obtain ⟨d'', -, h⟩ := bind_eq_ok_iff.mp h
      exact ih h

end RecordSchema.Settings
