import RecordSchema.CommandLine.Run
import RecordSchema.Proofs.Library.Lookup
import RecordSchema.Proofs.Schema.Failures
import RecordSchema.Proofs.Settings.Failures

/-! # Which exit code a failure ends in

A call whose arguments are in order carries out a task. The first stage of the task that fails
decides the exit code: settings that cannot be loaded and records that no schema can be built for
have one each, unless the error passes through.
-/
namespace RecordSchema.CommandLine
open Settings (sharedFileName ownFileName Readable Garbled Admissible)
variable {w : Surroundings} {args : List String} {s : Session} {t : Task} {src : Sources}

/-- A call is accepted if its arguments begin a session and lead to a task. -/
inductive Accepted (w : Surroundings) : List String → Session → Task → Prop
  | intro {args rest : List String} {r : Reading} {name : String} {c : Command} {s : Session}
      {t : Task} (hr : read programParameters false args = .ok r) (hh : r.has .help = false)
      (hn : r.rest = name :: rest) (hc : Command.ofName? name = some c)
      (hs : Session.start w r = .ok s) (ht : c.read w.tree rest = .ok (some t)) :
      Accepted w args s t

/-- The settings that a task begins with. -/
def Task.sources? : Task → Option Sources
  | .version _ => none
  | .config s _ | .fields s _ | .schema s _ _ => some s

/-- The settings of a task that looks at the fields of a record. -/
def Task.recordSources? : Task → Option Sources
  | .fields s _ | .schema s _ _ => some s
  | _ => none

theorem Accepted.run_eq (h : Accepted w args s t) :
    run w args = s.finish w (t.carryOut w s.console) := by
  cases h with
  | intro hr hh hn hc hs ht =>
    rw [run, hr]
    simp only [hh, hn, hc, inSession, hs, Session.run, ht]
    rfl

/-! ## Stages -/

theorem mapError_result {ε ε' α : Type} (f : ε → ε') (x : Logged ε α) :
    (x.mapError f).result = x.result.mapError f := by
  unfold Logged.mapError
  cases x.result <;> rfl

theorem loadSettings_result (w : Surroundings) (src : Sources) :
    (loadSettings w src).result =
      (Settings.load w.tree (src.request w.directory)).result.mapError .settings := by
  rw [loadSettings, mapError_result]

theorem loadRecord_result (w : Surroundings) (settings : Settings) :
    (loadRecord w settings).result =
      ((w.library.resolve settings.record).result.mapError .record).map Library.Object.subject := by
  rw [loadRecord, Logged.result_bind, mapError_result]
  cases (w.library.resolve settings.record).result <;> rfl

/-- Settings that cannot be loaded end every task that needs them. -/
theorem carryOut_of_settings_error {e : Settings.Error} (c : Terminal.Console)
    (hs : t.sources? = some src)
    (h : (Settings.load w.tree (src.request w.directory)).result = .error e) :
    (t.carryOut w c).result = .error (.settings e) := by
  cases t with
  | version => cases hs
  | config | fields | schema =>
    cases hs
    simp only [Task.carryOut, showConfig, showFields, showSchema, Logged.result_bind,
      loadSettings_result, h]
    rfl

/-- A record that is not found ends every task that looks at its fields. -/
theorem carryOut_of_record_error {settings : Settings} {e : Library.LoadError}
    (c : Terminal.Console) (hs : t.recordSources? = some src)
    (hl : (Settings.load w.tree (src.request w.directory)).result = .ok settings)
    (ho : (w.library.resolve settings.record).result = .error e) :
    (t.carryOut w c).result = .error (.record e) := by
  have hr : (loadRecord w settings).result = .error (.record e) := by
    rw [loadRecord_result, ho]
    rfl
  cases t with
  | version | config => cases hs
  | fields | schema =>
    cases hs
    simp only [Task.carryOut, showFields, showSchema, Logged.result_bind, loadSettings_result, hl,
      Except.mapError, ok_bind, hr]
    rfl

/-- A failure has its exit code, or else it passes through. -/
theorem failed_exitCode (w : Surroundings) (logged : String) (f : Failure) :
    (failed w logged f).exitCode = f.exitCode := by
  unfold failed Failure.exitCode
  cases f.reported? <;> rfl

theorem Accepted.exitCode_of_error {f : Failure} (h : Accepted w args s t)
    (hf : (t.carryOut w s.console).result = .error f) : (run w args).exitCode = f.exitCode := by
  rw [h.run_eq, Session.finish, hf]
  exact failed_exitCode w _ f

/-! ## Settings -/

/-- Loading settings fails by a configuration error unless a settings file cannot be looked for
where it may be, the first file that cannot be read is garbled, or the first override that ends in an
error has no text. Configuration errors have an exit code, and all others pass through. -/
theorem unloadable_settings (tree : FileTree) (r : Settings.Request) :
    ((∃ e, (Settings.load tree r).result = .error e ∧ e.isConfig = false) ↔
      (r.noConfig = false ∧ ∃ name ∈ [sharedFileName, ownFileName],
        tree.locate (r.directory.child name) = .error .denied ∨
        tree.locate (r.directory.child name) = .error .nameTooLong) ∨
      ((∃ files, r.files tree = .ok files) ∧ ∃ before p after,
        r.discovered tree ++ r.extra = before ++ p :: after ∧
          (∀ q ∈ before, Readable tree q) ∧ Garbled tree p) ∨
      (r.Loads tree ∧ ∃ before entry after, r.overrides = before ++ entry :: after ∧
        Admissible before ∧ Settings.Key.isKnown entry.1 ∧ entry.2.HoldsLong)) ∧
    ∀ w args s t src e, Accepted w args s t → t.sources? = some src → w.tree = tree →
      src.request w.directory = r → (Settings.load tree r).result = .error e →
      (run w args).exitCode = if e.isConfig then .settings else .failure := by
  constructor
  · rw [Settings.load_passes_iff, Settings.files_eq_error_iff]
  · rintro w args s t src e ha hs rfl rfl he
    rw [ha.exitCode_of_error (carryOut_of_settings_error s.console hs he), Failure.exitCode,
      Failure.reported?]
    cases e.isConfig <;> rfl

/-- A working directory with a settings file of one byte, which no text begins with. -/
def oneByte : Surroundings where
  tree := { files := [([ownFileName], .binary [0xff])], directories := [], work := [] }
  directory := ⟨"", []⟩
  library := []

theorem oneByte_unloadable :
    Accepted oneByte ["config"] ⟨Log.warning, ⟨true⟩⟩ (.config {} .text) ∧
    ∃ e, (Settings.load oneByte.tree (Sources.request {} oneByte.directory)).result = .error e ∧
      e.isConfig = false ∧ (run oneByte ["config"]).exitCode = .failure := by
  have ha : Accepted oneByte ["config"] ⟨Log.warning, ⟨true⟩⟩ (.config {} .text) := by
    have hr : read programParameters false ["config"] = .ok { rest := ["config"] } := by decide
    have hs : Session.start oneByte { rest := ["config"] } = .ok ⟨Log.warning, ⟨true⟩⟩ := rfl
    have ht : Command.config.read oneByte.tree [] = .ok (some (.config {} .text)) := by decide
    exact .intro hr rfl rfl rfl hs ht
  have hd : Content.decode (.binary [0xff]) = .error ⟨0xff, 0, 1, .invalidStart⟩ := by
    decide +kernel
  have hg : Garbled oneByte.tree ⟨"", [ownFileName]⟩ := ⟨.binary [0xff], rfl, .inl ⟨_, hd⟩⟩
  obtain ⟨hp, hx⟩ := unloadable_settings oneByte.tree (Sources.request {} oneByte.directory)
  obtain ⟨e, he, hc⟩ :=
    hp.mpr (.inr (.inl ⟨⟨[⟨"", [ownFileName]⟩], rfl⟩, [], _, [], rfl, by simp, hg⟩))
  have hr := hx oneByte ["config"] _ _ _ e ha rfl rfl rfl he
  rw [hc] at hr
  exact ⟨ha, e, he, hc, hr⟩

/-! ## Records -/

/-- A record whose only type is written as a lone bracket. -/
def crookedRecord : RecordClass :=
  ⟨recordLayer ⟨"shapes", "Crooked"⟩ false [taggedField "x" (.forward "[") (.int 1)], [],
    ⟨"shapes", [], []⟩⟩

def crookedWorkplace : Surroundings where
  tree := { files := [], directories := [], work := [] }
  directory := ⟨"", []⟩
  library := [{ name := "shapes", members := [("Crooked", .cls crookedRecord)] }]

/-- The schema of the record at a path can be asked for, whatever the path is. -/
theorem crookedWorkplace_accepted (path : String) :
    Accepted crookedWorkplace ["schema", "--record", path] ⟨Log.warning, ⟨true⟩⟩
      (.schema { record := some path } .text none) := by
  have hr : read programParameters false ["schema", "--record", path] =
      .ok { rest := ["schema", "--record", path] } := rfl
  have hs : Session.start crookedWorkplace { rest := ["schema", "--record", path] } =
      .ok ⟨Log.warning, ⟨true⟩⟩ := rfl
  exact .intro hr rfl rfl rfl hs rfl

theorem crookedWorkplace_load (path : String) :
    (Settings.load crookedWorkplace.tree
      (Sources.request { record := some path } crookedWorkplace.directory)).result =
        .ok ⟨path, defaultTagKey, View.defaultOutputName, View.defaultInputName,
          [Settings.defaultSource], []⟩ := rfl

/-- A record path leads to what its names lead to, or looking it up fails for one of a few causes.
Each cause has an exit code, except that of a module that is asked for relative to a package: the
error about it passes through. -/
theorem unfindable_record (library : Library) (path : String) :
    (∀ o, (library.resolve path).result = .ok o ↔ Library.Finds library path o) ∧
    (∀ e, (library.resolve path).result = .error e ↔ Library.Misses library path e) ∧
    ((∃ e, (library.resolve path).result = .error e ∧ e.isRecordLoad = false) ↔
      ∃ module attributes, Library.Parts path module attributes ∧
        module.toList.head? = some '.') ∧
    ∀ w args session t src settings e, Accepted w args session t →
      t.recordSources? = some src →
      (Settings.load w.tree (src.request w.directory)).result = .ok settings →
      w.library = library → settings.record = path →
      (library.resolve path).result = .error e →
      (run w args).exitCode = if e.isRecordLoad then .settings else .failure := by
  simp only [Library.resolve_result, Library.find_eq_ok_iff, Library.find_eq_error_iff]
  refine ⟨fun _ => trivial, fun _ => trivial, ?_, ?_⟩
  · constructor
    · rintro ⟨e, he, hp⟩
      obtain ⟨module, rfl⟩ := he.isRecordLoad_eq_false_iff.mp hp
      cases he with
      | relative hp hr => exact ⟨_, _, hp, hr⟩
    · rintro ⟨module, attributes, hp, hr⟩
      exact ⟨_, .relative hp hr, rfl⟩
  · rintro w args session t src settings e ha hs hl rfl rfl he
    have ho : (w.library.resolve settings.record).result = .error e := by
      rw [Library.resolve_result]
      exact he.find_eq
    rw [ha.exitCode_of_error (carryOut_of_record_error session.console hs hl ho),
      Failure.exitCode, Failure.reported?]
    cases e.isRecordLoad <;> rfl

def relativeSources : Sources := { record := some ".shapes:Crooked" }

theorem relativePath_passes :
    Library.Parts ".shapes:Crooked" ".shapes" "Crooked" ∧
    Accepted crookedWorkplace ["schema", "--record", ".shapes:Crooked"] ⟨Log.warning, ⟨true⟩⟩
      (.schema relativeSources .text none) ∧
    ∃ e, (crookedWorkplace.library.resolve ".shapes:Crooked").result = .error e ∧
      e.isRecordLoad = false ∧
      (run crookedWorkplace ["schema", "--record", ".shapes:Crooked"]).exitCode = .failure := by
  have hp : Library.Parts ".shapes:Crooked" ".shapes" "Crooked" :=
    ⟨rfl, by decide, by decide, by decide⟩
  have ha := crookedWorkplace_accepted ".shapes:Crooked"
  obtain ⟨-, -, hpass, hx⟩ := unfindable_record crookedWorkplace.library ".shapes:Crooked"
  obtain ⟨e, he, hc⟩ := hpass.mpr ⟨_, _, hp, rfl⟩
  have hr := hx crookedWorkplace _ _ _ relativeSources _ e ha rfl (crookedWorkplace_load _) rfl rfl
    he
  rw [hc] at hr
  exact ⟨hp, ha, e, he, hc, hr⟩

end RecordSchema.CommandLine
