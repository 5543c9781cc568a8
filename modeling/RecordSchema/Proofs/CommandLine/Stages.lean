import RecordSchema.Proofs.CommandLine.ExitCode
import RecordSchema.Proofs.Terminal.Plain

/-! # The stages of a task

A task loads its settings, looks its record up, maps the fields of the record and writes its file,
each of these only where it is asked for. `Task.Stops` tells of the stage that ends it, `Task.Makes`
of the text that comes of it; in either case the log is that of the stages gone through and of no
other.
-/
namespace RecordSchema.CommandLine
variable {w : Surroundings} {args : List String} {session : Session} {t : Task} {src : Sources}
  {settings : Settings} {o : Library.Object} {log : List Log.Record} {f : Failure} {text : String}
  {owed : List Notice}

inductive Stage where
  | settings
  | record
  | mapping
  | writing
deriving DecidableEq, Repr

/-- The number of the exit code of a stage that fails by an error of its own kind. -/
def Stage.number : Stage → Nat
  | .settings | .record => 78
  | .mapping => 65
  | .writing => 74

/-- The file that a task is to write. -/
def Task.out? : Task → Option Path
  | .schema _ _ out => out
  | _ => none

def Sources.load (src : Sources) (w : Surroundings) : Logged Settings.Error Settings :=
  Settings.load w.tree (src.request w.directory)

def configText (settings : Settings) : OutputFormat → String
  | .text => settings.toToml
  | .json => asLine (settingsJson settings).indented

def fieldsText (ms : List MappedField) : OutputFormat → String
  | .text => String.join ((FieldTable.lines (ms.map MappedField.row)).map asLine)
  | .json => asLine (FieldTable.json (ms.map MappedField.row)).indented

/-- What is logged about a record that no schema can be built for. -/
def mention (e : SchemaError) : List Log.Record :=
  if e.isBuild then [⟨Log.debug, "Schema build failed: " ++ e.message⟩] else []

/-- The first stage that fails, what is logged up to then, and the failure. -/
inductive Task.Stops (w : Surroundings) : Task → Stage → List Log.Record → Failure → Prop
  | settings {t : Task} {src : Sources} {e : Settings.Error} (hs : t.sources? = some src)
      (hl : (src.load w).result = .error e) : Stops w t .settings (src.load w).log (.settings e)
  | record {t : Task} {src : Sources} {settings : Settings} {e : Library.LoadError}
      (hs : t.recordSources? = some src) (hl : (src.load w).result = .ok settings)
      (ho : (w.library.resolve settings.record).result = .error e) :
      Stops w t .record ((src.load w).log ++ (w.library.resolve settings.record).log) (.record e)
  | mapping {t : Task} {src : Sources} {settings : Settings} {o : Library.Object} {e : SchemaError}
      (hs : t.recordSources? = some src) (hl : (src.load w).result = .ok settings)
      (ho : (w.library.resolve settings.record).result = .ok o)
      (hm : (o.subject.mapped settings.tagKey).result = .error e) :
      Stops w t .mapping ((src.load w).log ++ ((w.library.resolve settings.record).log ++
        ((o.subject.mapped settings.tagKey).log ++ mention e))) (.schema e)
  | writing {src : Sources} {format : OutputFormat} {p : Path} {settings : Settings}
      {o : Library.Object} {schema : Schema} {e : FileError}
      (hl : (src.load w).result = .ok settings)
      (ho : (w.library.resolve settings.record).result = .ok o)
      (hm : (o.subject.schema settings.tagKey settings.views).result = .ok schema)
      (hw : w.tree.write p (schemaText settings schema format) = .error e) :
      Stops w (.schema src format (some p)) .writing ((src.load w).log ++
        ((w.library.resolve settings.record).log ++
          (o.subject.schema settings.tagKey settings.views).log)) (.writing p.text e)

/-- The whole text that a task makes of its settings and its record, what is logged up to then, and
the notices that a summary is owed for. -/
inductive Task.Makes (w : Surroundings) : Task → List Log.Record → String → List Notice → Prop
  | config {src : Sources} {format : OutputFormat} {settings : Settings}
      (hl : (src.load w).result = .ok settings) :
      Makes w (.config src format) (src.load w).log (configText settings format)
        (owedFor format settings.notices)
  | fields {src : Sources} {format : OutputFormat} {settings : Settings} {o : Library.Object}
      {ms : List MappedField} {ns : List Notice} (hl : (src.load w).result = .ok settings)
      (ho : (w.library.resolve settings.record).result = .ok o)
      (hm : (o.subject.mapped settings.tagKey).result = .ok (ms, ns)) :
      Makes w (.fields src format) ((src.load w).log ++
        ((w.library.resolve settings.record).log ++ (o.subject.mapped settings.tagKey).log))
        (fieldsText ms format) []
  | schema {src : Sources} {format : OutputFormat} {out : Option Path} {settings : Settings}
      {o : Library.Object} {schema : Schema} (hl : (src.load w).result = .ok settings)
      (ho : (w.library.resolve settings.record).result = .ok o)
      (hm : (o.subject.schema settings.tagKey settings.views).result = .ok schema) :
      Makes w (.schema src format out) ((src.load w).log ++
        ((w.library.resolve settings.record).log ++
          (o.subject.schema settings.tagKey settings.views).log))
        (schemaText settings schema format)
        (owedFor format (settings.notices ++ schema.notices))

/-! ## Single stages -/

theorem bind_logged_ok {ε α β : Type} (log : List Log.Record) (a : α) (g : α → Logged ε β) :
    (⟨log, .ok a⟩ : Logged ε α) >>= g = ⟨log ++ (g a).log, (g a).result⟩ := Logged.bind_of_ok rfl

theorem bind_logged_error {ε α β : Type} (log : List Log.Record) (e : ε) (g : α → Logged ε β) :
    (⟨log, .error e⟩ : Logged ε α) >>= g = ⟨log, .error e⟩ := Logged.bind_of_error rfl

theorem mapError_of_ok {ε ε' α : Type} {x : Logged ε α} {a : α} (g : ε → ε')
    (h : x.result = .ok a) : x.mapError g = ⟨x.log, .ok a⟩ := by
  rw [Logged.mapError, h]

theorem mapError_of_error {ε ε' α : Type} {x : Logged ε α} {e : ε} (g : ε → ε')
    (h : x.result = .error e) : x.mapError g = ⟨x.log, .error (g e)⟩ := by
  rw [Logged.mapError, h]

theorem loadSettings_of_ok (h : (src.load w).result = .ok settings) :
    loadSettings w src = ⟨(src.load w).log, .ok settings⟩ :=
  mapError_of_ok Failure.settings h

theorem loadSettings_of_error {e : Settings.Error} (h : (src.load w).result = .error e) :
    loadSettings w src = ⟨(src.load w).log, .error (.settings e)⟩ :=
  mapError_of_error Failure.settings h

theorem loadRecord_of_resolved (h : (w.library.resolve settings.record).result = .ok o) :
    loadRecord w settings = ⟨(w.library.resolve settings.record).log, .ok o.subject⟩ := by
  have hr := mapError_of_ok Failure.record h
  rw [loadRecord, hr, Logged.bind_of_ok rfl]
  simp

theorem loadRecord_of_error {e : Library.LoadError}
    (h : (w.library.resolve settings.record).result = .error e) :
    loadRecord w settings = ⟨(w.library.resolve settings.record).log, .error (.record e)⟩ := by
  have hr := mapError_of_error Failure.record h
  rw [loadRecord, hr, Logged.bind_of_error rfl]

theorem built_of_ok {α : Type} {x : Logged SchemaError α} {a : α} (h : x.result = .ok a) :
    built x = ⟨x.log, .ok a⟩ := by
  rw [built, h]

theorem built_of_error {α : Type} {x : Logged SchemaError α} {e : SchemaError}
    (h : x.result = .error e) : built x = ⟨x.log ++ mention e, .error (.schema e)⟩ := by
  simp only [built, h]
  rfl

/-- Where the mapping fails, so does every schema, and nothing more is logged. -/
theorem built_schema_of_error {s : Subject} {tagKey : String} {e : SchemaError}
    (h : (s.mapped tagKey).result = .error e) (views : List View) :
    built (s.schema tagKey views) = ⟨(s.mapped tagKey).log ++ mention e, .error (.schema e)⟩ := by
  have hs : s.schema tagKey views = ⟨(s.mapped tagKey).log, .error e⟩ := Logged.bind_of_error h
  rw [hs]
  exact built_of_error rfl

/-! ## Whole tasks -/

theorem Task.Stops.carryOut_eq {stage : Stage} (h : t.Stops w stage log f)
    (c : Terminal.Console) : t.carryOut w c = ⟨log, .error f⟩ := by
  cases h with
  | settings hs hl =>
    cases t with
    | version => cases hs
    | config | fields | schema =>
      cases hs
      simp only [carryOut, showConfig, showFields, showSchema, loadSettings_of_error hl,
        bind_logged_error]
  | record hs hl ho =>
    cases t with
    | version | config => cases hs
    | fields | schema =>
      cases hs
      simp only [carryOut, showFields, showSchema, loadSettings_of_ok hl, bind_logged_ok,
        loadRecord_of_error ho, bind_logged_error]
  | mapping hs hl ho hm =>
    cases t with
    | version | config => cases hs
    | fields =>
      cases hs
      simp only [carryOut, showFields, loadSettings_of_ok hl, bind_logged_ok,
        loadRecord_of_resolved ho, built_of_error hm, bind_logged_error]
    | schema =>
      cases hs
      simp only [carryOut, showSchema, loadSettings_of_ok hl, bind_logged_ok,
        loadRecord_of_resolved ho, built_schema_of_error hm, bind_logged_error]
  | writing hl ho hm hw =>
    simp only [carryOut, showSchema, loadSettings_of_ok hl, bind_logged_ok,
      loadRecord_of_resolved ho, built_of_ok hm, deliver, hw, Except.mapError, Logged.of,
      bind_logged_error, List.append_nil]

/-- What a console shows of texts that are put out one after the other. -/
def shown (c : Terminal.Console) (texts : List String) : String :=
  String.join (texts.map fun text => c.put text false)

theorem shown_single (c : Terminal.Console) (text : String) : shown c [text] = c.put text false :=
  String.empty_append

/-- A text that is not to be written to a file is delivered in pieces that show as it does. -/
theorem Task.Makes.carryOut_eq (h : t.Makes w log text owed) (ho : t.out? = none)
    (c : Terminal.Console) : ∃ texts, shown c texts = c.put text false ∧
      t.carryOut w c = ⟨log, .ok { output := texts, owed := owed, tree := w.tree }⟩ := by
  cases h with
  | @config _ format settings hl =>
    refine ⟨[configText settings format], shown_single c _, ?_⟩
    simp only [carryOut, showConfig, loadSettings_of_ok hl, bind_logged_ok]
    simp only [Logged.log_pure, Logged.result_pure, List.append_nil]
    cases format <;> rfl
  | @fields _ format _ _ ms _ hl hr hm =>
    simp only [carryOut, showFields, loadSettings_of_ok hl, bind_logged_ok,
      loadRecord_of_resolved hr, built_of_ok hm]
    simp only [Logged.log_pure, Logged.result_pure, List.append_nil]
    cases format with
    | text => exact ⟨_, Terminal.join_put c (FieldTable.lines (ms.map MappedField.row)), rfl⟩
    | json => exact ⟨_, shown_single c _, rfl⟩
  | schema hl hr hm =>
    obtain rfl := ho
    refine ⟨_, shown_single c _, ?_⟩
    simp only [carryOut, showSchema, loadSettings_of_ok hl, bind_logged_ok,
      loadRecord_of_resolved hr, built_of_ok hm, deliver]
    simp only [Logged.log_pure, Logged.result_pure, List.append_nil]

theorem Task.Makes.finish_eq (h : t.Makes w log text owed) (ho : t.out? = none) (s : Session) :
    s.finish w (t.carryOut w s.console) =
      { exitCode := .success, output := s.console.put text false,
        errors := s.logText log ++ summary s.console s.level owed, tree := w.tree } := by
  obtain ⟨texts, ht, he⟩ := h.carryOut_eq ho s.console
  rw [he, ← ht]
  rfl

theorem Task.Makes.carryOut_written {p : Path} {tree : FileTree} (h : t.Makes w log text owed)
    (ho : t.out? = some p) (hw : w.tree.write p text = .ok tree) (c : Terminal.Console) :
    ∃ message, t.carryOut w c =
      ⟨log ++ [⟨Log.info, message⟩], .ok { owed := owed, tree := tree }⟩ := by
  cases h with
  | config | fields => cases ho
  | schema hl hr hm =>
    rename_i settings _ _
    obtain rfl := ho
    refine ⟨"Wrote schema for " ++ settings.record ++ " to " ++ p.text, ?_⟩
    simp only [carryOut, showSchema, loadSettings_of_ok hl, bind_logged_ok,
      loadRecord_of_resolved hr, built_of_ok hm, deliver, hw, Except.mapError, Logged.of,
      Logged.write]
    simp

/-- A task stops at some stage, or it makes its text and the text can be written where it is to go.
-/
theorem Task.stops_or_makes (hs : t.sources? = some src) :
    (∃ stage log f, t.Stops w stage log f) ∨
      ∃ log text owed, t.Makes w log text owed ∧
        ∀ p, t.out? = some p → ∃ tree, w.tree.write p text = .ok tree := by
  -- the stages in their order, each one looked at where those before it succeed
  cases hl : (src.load w).result with
  | error e => exact .inl ⟨_, _, _, .settings hs hl⟩
  | ok settings =>
    cases t with
    | version => cases hs
    | config =>
      cases hs
      exact .inr ⟨_, _, _, .config hl, fun p hp => by cases hp⟩
    | fields =>
      cases hs
      cases ho : (w.library.resolve settings.record).result with
      | error e => exact .inl ⟨_, _, _, .record rfl hl ho⟩
      | ok o =>
        cases hm : (o.subject.mapped settings.tagKey).result with
        | error e => exact .inl ⟨_, _, _, .mapping rfl hl ho hm⟩
        | ok p => exact .inr ⟨_, _, _, .fields hl ho hm, fun p hp => by cases hp⟩
    | schema src format out =>
      cases hs
      cases ho : (w.library.resolve settings.record).result with
      | error e => exact .inl ⟨_, _, _, .record rfl hl ho⟩
      | ok o =>
        cases hm : (o.subject.schema settings.tagKey settings.views).result with
        | error e => exact .inl ⟨_, _, _, .mapping rfl hl ho (schema_eq_error_iff.mp hm)⟩
        | ok schema =>
          cases out with
          | none => exact .inr ⟨_, _, _, .schema hl ho hm, fun p hp => by cases hp⟩
          | some p =>
            cases hw : w.tree.write p (schemaText settings schema format) with
            | error e => exact .inl ⟨_, _, _, .writing hl ho hm hw⟩
            | ok tree =>
              refine .inr ⟨_, _, _, .schema hl ho hm, fun q hq => ?_⟩
              cases hq
              exact ⟨tree, hw⟩

/-- A failure that is reported has the exit code of its stage. -/
theorem Task.Stops.number_eq {stage : Stage} (h : t.Stops w stage log f) :
    f.exitCode.number = if f.reported?.isSome then stage.number else 1 := by
  have hc : ∀ code, f.reported? = some code → code.number = stage.number := by
    intro code hr
    cases h with
    | settings | record | mapping =>
      obtain ⟨-, hr⟩ := Option.ite_none_right_eq_some.mp hr
      cases hr
      rfl
    | writing =>
      cases hr
      rfl
  cases hr : f.reported? with
  | none => rw [Failure.exitCode, hr]; rfl
  | some code => rw [Failure.exitCode, hr]; exact hc code hr

/-! ## Runs -/

/-- The level of the environment counts before that of the flags. -/
theorem Session.start_eq_ok_iff {r : Reading} : Session.start w r = .ok session ↔
    ∃ asked level, verbosity (r.count .verbose) (r.count .quiet) = .ok asked ∧
      Log.readLevel w.levelSetting = .ok level ∧
      session = ⟨level.getD asked, ⟨!r.has .noColour⟩⟩ := by
  rw [Session.start]
  constructor
  · intro h
    cases hv : verbosity (r.count .verbose) (r.count .quiet) with
    | error e => rw [hv] at h; cases h
    | ok asked =>
      rw [hv] at h
      cases hl : Log.readLevel w.levelSetting with
      | error e => rw [hl] at h; cases h
      | ok level =>
        rw [hl] at h
        cases h
        exact ⟨asked, level, rfl, rfl, rfl⟩
  · rintro ⟨asked, level, hv, hl, rfl⟩
    rw [hv, hl]
    rfl

/-- Arguments that begin a session: no help is asked for, the flags for verbosity do not contradict
each other, and what follows the flags is a command or nothing at all. -/
inductive Opens (args : List String) : Prop
  | intro {r : Reading} {level : Int} (hr : read programParameters false args = .ok r)
      (hh : r.has .help = false) (hc : ∀ name ∈ r.rest.head?, (Command.ofName? name).isSome)
      (hv : verbosity (r.count .verbose) (r.count .quiet) = .ok level)

theorem Opens.run_of_level_error {e : Log.LevelError} (h : Opens args)
    (hl : Log.readLevel w.levelSetting = .error e) : run w args = failed w "" (.level e) := by
  cases h with
  | @intro r level hr hh hc hv =>
    have hs : Session.start w r = .error (.level e) := by
      rw [Session.start, hv, hl]
      rfl
    rw [run, hr]
    cases hn : r.rest with
    | nil =>
      simp only [hh, hn, inSession, hs]
      rfl
    | cons name rest =>
      obtain ⟨c, hc⟩ := Option.isSome_iff_exists.mp (hc name (by rw [hn]; rfl))
      simp only [hh, hn, hc, inSession, hs]
      rfl

theorem failed_output (w : Surroundings) (logged : String) (f : Failure) :
    (failed w logged f).output = "" ∧ (failed w logged f).tree = w.tree := by
  unfold failed
  cases f.reported? <;> exact ⟨rfl, rfl⟩

theorem Failure.exitCode_ne_success (f : Failure) : f.exitCode ≠ .success := by
  have hc : f.reported? ≠ some .success := by
    cases f with
    | verbosity | level | writing => simp [reported?]
    | settings | record | schema =>
      rw [reported?]
      split_ifs <;> simp
  intro h
  unfold exitCode at h
  cases hr : f.reported? with
  | none => rw [hr] at h; cases h
  | some code =>
    rw [hr] at h hc
    exact hc (congrArg some h)

theorem failed_ne_success (w : Surroundings) (logged : String) (f : Failure) :
    (failed w logged f).exitCode ≠ .success := by
  rw [failed_exitCode]
  exact f.exitCode_ne_success

theorem Accepted.run_of_stops {stage : Stage} (h : Accepted w args session t)
    (hs : t.Stops w stage log f) : run w args = failed w (session.logText log) f := by
  rw [h.run_eq, hs.carryOut_eq]
  rfl

theorem Accepted.run_of_makes (h : Accepted w args session t) (hm : t.Makes w log text owed)
    (ho : t.out? = none) : run w args =
      { exitCode := .success, output := session.console.put text false,
        errors := session.logText log ++ summary session.console session.level owed,
        tree := w.tree } := by
  rw [h.run_eq, hm.finish_eq ho]

/-- What is written to a file is not put out. -/
theorem Accepted.run_of_written {p : Path} {tree : FileTree} (h : Accepted w args session t)
    (hm : t.Makes w log text owed) (ho : t.out? = some p) (hw : w.tree.write p text = .ok tree) :
    run w args =
      { exitCode := .success,
        errors := session.logText (t.carryOut w session.console).log ++
          summary session.console session.level owed,
        tree := tree } := by
  obtain ⟨message, he⟩ := hm.carryOut_written ho hw session.console
  rw [h.run_eq, he]
  rfl

/-- A run ends well only if its file can be written. -/
theorem Accepted.write_of_success {p : Path} (h : Accepted w args session t)
    (hm : t.Makes w log text owed) (ho : t.out? = some p)
    (hx : (run w args).exitCode = .success) : ∃ tree, w.tree.write p text = .ok tree := by
  cases hw : w.tree.write p text with
  | ok tree => exact ⟨tree, rfl⟩
  | error e =>
    cases hm with
    | config | fields => cases ho
    | schema hl hr hs =>
      obtain rfl := ho
      rw [h.run_of_stops (.writing hl hr hs hw)] at hx
      exact absurd hx (failed_ne_success w _ _)

/-- A run that ends well leaves its log and the summary of what it owes on the error stream. -/
theorem Accepted.errors_of_success (h : Accepted w args session t)
    (hm : t.Makes w log text owed) (hx : (run w args).exitCode = .success) :
    (run w args).errors = session.logText (t.carryOut w session.console).log ++
      summary session.console session.level owed := by
  cases ho : t.out? with
  | none =>
    obtain ⟨texts, -, he⟩ := hm.carryOut_eq ho session.console
    rw [h.run_of_makes hm ho, he]
  | some p =>
    obtain ⟨tree, hw⟩ := h.write_of_success hm ho hx
    rw [h.run_of_written hm ho hw]

/-- Arguments lead to one task at most. -/
theorem Accepted.unique {session' : Session} {t' : Task} (h : Accepted w args session t)
    (h' : Accepted w args session' t') : session = session' ∧ t = t' := by
  cases h with
  | intro hr hh hn hc hs ht =>
    cases h' with
    | intro hr' hh' hn' hc' hs' ht' =>
      cases hr.symm.trans hr'
      cases hn.symm.trans hn'
      cases hc.symm.trans hc'
      cases hs.symm.trans hs'
      cases ht.symm.trans ht'
      exact ⟨rfl, rfl⟩

/-! ## A place to work in -/

theorem ok_of_toOption {ε α : Type} {x : Except ε α} {a : α} (h : x.toOption = some a) :
    x = .ok a := by
  cases x with
  | error e => cases h
  | ok b => exact congrArg Except.ok (Option.some.inj h)

/-- A record whose number is one too large for the schema. -/
def brim : RecordClass :=
  ⟨recordLayer ⟨"meters", "Brim"⟩ false [taggedField "level" .intType (.int 2147483648)], [],
    ⟨"meters", TypeExpr.known, []⟩⟩

/-- A place to work in with that record and a settings file that names it and has an unknown key. -/
def brimWorkplace : Surroundings where
  tree :=
    { files := [(["confql.toml"], .text "hue = 1\nrecord = \"meters:Brim\"\n")]
      directories := []
      work := [] }
  directory := ⟨"", []⟩
  library := [{ name := "meters", members := [("Brim", .cls brim)] }]

def brimSettings : Settings :=
  ⟨"meters:Brim", defaultTagKey, View.defaultOutputName, View.defaultInputName,
    [Settings.defaultSource, "confql.toml"], [.warning "confql.toml: unknown settings key 'hue'"]⟩

def brimSchema : Schema :=
  ⟨"type Global \x7b\n\tlevel: String!\n\x7d\n\ninput globalInput \x7b\n\tlevel: String\n\x7d\n",
    [.warning ("level (int): value 2147483648 exceeds GraphQL Int32 range, " ++
      "using String type instead")]⟩

theorem brimWorkplace_load : (Sources.load {} brimWorkplace).result = .ok brimSettings := by
  decide +kernel

theorem brimWorkplace_resolve :
    (brimWorkplace.library.resolve brimSettings.record).result = .ok (.cls brim) := rfl

theorem brim_schema : ((Subject.cls brim).schema brimSettings.tagKey brimSettings.views).result =
    .ok brimSchema :=
  ok_of_toOption (by decide +kernel)

end RecordSchema.CommandLine
