import RecordSchema.Proofs.CommandLine.Stages
import RecordSchema.Proofs.FileTree

/-! # All of the text or nothing

A command whose arguments are understood either gets through all of its stages, and then the whole
text is put out or lies in the file that was named, or it ends with the first stage that fails, and
then nothing is put out and no file has changed.
-/
namespace RecordSchema.CommandLine
variable {w : Surroundings} {args : List String} {r : Reading} {s : Session} {t : Task}

/-- The arguments name a command that works with settings, no help is asked for, and the flags for
verbosity do not contradict each other. -/
inductive Understood (w : Surroundings) : List String → Reading → Task → Prop
  | intro {args rest : List String} {r : Reading} {name : String} {c : Command} {level : Int}
      {t : Task} (hr : read programParameters false args = .ok r) (hh : r.has .help = false)
      (hn : r.rest = name :: rest) (hc : Command.ofName? name = some c)
      (hv : verbosity (r.count .verbose) (r.count .quiet) = .ok level)
      (ht : c.read w.tree rest = .ok (some t)) (hs : t.sources?.isSome) : Understood w args r t

theorem Understood.accepted (h : Understood w args r t) (hs : Session.start w r = .ok s) :
    Accepted w args s t := by
  cases h with
  | intro hr hh hn hc hv ht => exact .intro hr hh hn hc hs ht

theorem Understood.opens (h : Understood w args r t) : Opens args := by
  cases h with
  | intro hr hh hn hc hv =>
    refine .intro hr hh (fun name hm => ?_) hv
    rw [hn] at hm
    cases hm
    rw [hc]
    rfl

theorem Understood.run_of_level_error {e : Log.LevelError} (h : Understood w args r t)
    (hl : Log.readLevel w.levelSetting = .error e) : run w args = failed w "" (.level e) :=
  h.opens.run_of_level_error hl

theorem Understood.start_of_level {level : Option Int} (h : Understood w args r t)
    (hl : Log.readLevel w.levelSetting = .ok level) : ∃ s, Session.start w r = .ok s := by
  cases h with
  | intro hr hh hn hc hv ht =>
    exact ⟨_, Session.start_eq_ok_iff.mpr ⟨_, _, hv, hl, rfl⟩⟩

/-- What a whole delivery leaves behind. Where colour is turned off, what is put out has lost its
control sequences. -/
def Delivered (w : Surroundings) (r : Reading) (text : String) (x : Outcome) : Option Path → Prop
  | none => x.output = (if r.has .noColour then Terminal.plain text else text) ∧ x.tree = w.tree
  | some p => x.output = "" ∧ w.tree.write p text = .ok x.tree ∧ x.tree.read p = .ok (.text text)

theorem delivered_of_makes {log : List Log.Record} {text : String} {owed : List Notice}
    (h : Understood w args r t) (hs : Session.start w r = .ok s) (hm : t.Makes w log text owed)
    (hw : ∀ p, t.out? = some p → ∃ tree, w.tree.write p text = .ok tree) :
    (run w args).exitCode = .success ∧ Delivered w r text (run w args) t.out? := by
  have ha := h.accepted hs
  cases ho : t.out? with
  | none =>
    obtain ⟨_, _, -, -, rfl⟩ := Session.start_eq_ok_iff.mp hs
    rw [ha.run_of_makes hm ho]
    refine ⟨rfl, ?_, rfl⟩
    unfold Terminal.Console.put
    cases r.has .noColour <;> rfl
  | some p =>
    obtain ⟨tree, hw⟩ := hw p ho
    rw [ha.run_of_written hm ho hw]
    exact ⟨rfl, rfl, hw, FileTree.read_of_write hw⟩

theorem Understood.sources (h : Understood w args r t) : ∃ src, t.sources? = some src := by
  cases h with
  | intro _ _ _ _ _ _ hs => exact Option.isSome_iff_exists.mp hs

/-- There is a stage that ends the task, or all of its text is delivered. -/
theorem Understood.stops_or_delivered (h : Understood w args r t) (hs : Session.start w r = .ok s) :
    (∃ stage log f, t.Stops w stage log f) ∨ (run w args).exitCode = .success ∧
      ∃ log text owed, t.Makes w log text owed ∧ Delivered w r text (run w args) t.out? := by
  obtain ⟨src, hsrc⟩ := h.sources
  rcases Task.stops_or_makes (w := w) hsrc with hf | ⟨log, text, owed, hm, hw⟩
  · exact .inl hf
  · obtain ⟨hx, hd⟩ := delivered_of_makes h hs hm hw
    exact .inr ⟨hx, log, text, owed, hm, hd⟩

theorem Understood.fails_or_succeeds (h : Understood w args r t) :
    (∃ logged f, run w args = failed w logged f) ∨ (run w args).exitCode = .success := by
  cases hl : Log.readLevel w.levelSetting with
  | error e => exact .inl ⟨"", _, h.run_of_level_error hl⟩
  | ok level =>
    obtain ⟨s, hs⟩ := h.start_of_level hl
    rcases h.stops_or_delivered hs with ⟨stage, log, f, hf⟩ | ⟨hx, -⟩
    · exact .inl ⟨_, f, (h.accepted hs).run_of_stops hf⟩
    · exact .inr hx

theorem Understood.succeeds_iff (h : Understood w args r t) (hs : Session.start w r = .ok s) :
    (run w args).exitCode = .success ↔ ¬ ∃ stage log f, t.Stops w stage log f := by
  constructor
  · rintro hx ⟨stage, log, f, hf⟩
    rw [(h.accepted hs).run_of_stops hf] at hx
    exact failed_ne_success _ _ _ hx
  · intro hn
    exact ((h.stops_or_delivered hs).resolve_left hn).1

/-- The first stage that fails decides the exit code, and nothing of a later stage shows in the
outcome. Whatever the reason, a command that fails has put out nothing and changed no file; one that
succeeds has gone through all stages and delivered the whole of its text. -/
theorem whole_delivery_or_none (h : Understood w args r t) :
    ((run w args).exitCode ≠ .success → (run w args).output = "" ∧ (run w args).tree = w.tree) ∧
    (∀ e, Log.readLevel w.levelSetting = .error e → run w args = failed w "" (.level e)) ∧
    ∀ s, Session.start w r = .ok s →
      (∀ stage log f, t.Stops w stage log f → run w args = failed w (s.logText log) f ∧
        (run w args).exitCode.number = if f.reported?.isSome then stage.number else 1) ∧
      ((run w args).exitCode = .success ↔ ¬ ∃ stage log f, t.Stops w stage log f) ∧
      ((run w args).exitCode = .success →
        ∃ log text owed, t.Makes w log text owed ∧ Delivered w r text (run w args) t.out?) := by
  refine ⟨fun hx => ?_, fun e he => h.run_of_level_error he, fun s hs => ⟨?_, ?_, ?_⟩⟩
  · obtain ⟨logged, f, hf⟩ := h.fails_or_succeeds.resolve_right hx
    rw [hf]
    exact failed_output w logged f
  · intro stage log f hf
    have hr := (h.accepted hs).run_of_stops hf
    refine ⟨hr, ?_⟩
    rw [hr, failed_exitCode]
    exact hf.number_eq
  · exact h.succeeds_iff hs
  · intro hx
    exact ((h.stops_or_delivered hs).resolve_left ((h.succeeds_iff hs).mp hx)).2

theorem brimWorkplace_written :
    let t := Task.schema {} .text (some ⟨"", ["types.graphql"]⟩)
    Understood brimWorkplace ["schema", "--out", "types.graphql"]
      { rest := ["schema", "--out", "types.graphql"] } t ∧
    ∃ log text owed, t.Makes brimWorkplace log text owed ∧
      (run brimWorkplace ["schema", "--out", "types.graphql"]).output = "" ∧
      (run brimWorkplace ["schema", "--out", "types.graphql"]).tree.read ⟨"", ["types.graphql"]⟩ =
        .ok (.text text) := by
  intro t
  have hr : read programParameters false ["schema", "--out", "types.graphql"] =
      .ok { rest := ["schema", "--out", "types.graphql"] } := by decide
  have ht : Command.schema.read brimWorkplace.tree ["--out", "types.graphql"] = .ok (some t) := by
    decide +kernel
  have hu : Understood brimWorkplace ["schema", "--out", "types.graphql"] _ t :=
    .intro hr rfl rfl rfl rfl ht rfl
  obtain ⟨-, -, hx⟩ := whole_delivery_or_none hu
  obtain ⟨-, -, hd⟩ := hx ⟨Log.warning, ⟨true⟩⟩ rfl
  have hc : (run brimWorkplace ["schema", "--out", "types.graphql"]).exitCode = .success := by
    decide +kernel
  obtain ⟨log, text, owed, hm, ho, -, hp⟩ := hd hc
  exact ⟨hu, log, text, owed, hm, ho, hp⟩

/-- The name of a type with a control sequence in it. -/
def boldName : String := String.ofList (Terminal.rendition 1 ++ ['X'])

/-- Where colour is turned off, a schema may be put out with less than the whole of its text. -/
theorem boldName_cut :
    let args := ["--no-color", "schema", "--output-type", boldName]
    let t := Task.schema { outputType := some boldName } .text none
    Understood brimWorkplace args ⟨[(.noColour, none)], ["schema", "--output-type", boldName]⟩ t ∧
    (run brimWorkplace args).exitCode = .success ∧ t.out? = none ∧
    ∃ log text owed, t.Makes brimWorkplace log text owed ∧
      (run brimWorkplace args).output ≠ text := by
  intro args t
  have hr : read programParameters false args =
      .ok ⟨[(.noColour, none)], ["schema", "--output-type", boldName]⟩ := by decide +kernel
  have ht : Command.schema.read brimWorkplace.tree ["--output-type", boldName] = .ok (some t) := by
    decide +kernel
  have hc : (run brimWorkplace args).exitCode = .success := by decide +kernel
  have hl : (Sources.load { outputType := some boldName } brimWorkplace).result =
      .ok { brimSettings with outputType := boldName } := by
    decide +kernel
  have hm : ((Subject.cls brim).schema defaultTagKey
      [.output boldName, View.defaultInput]).result =
        .ok { brimSchema with
          text := "type " ++ boldName ++ " \x7b\n\tlevel: String!\n\x7d\n\n" ++
            "input globalInput \x7b\n\tlevel: String\n\x7d\n" } :=
    ok_of_toOption (by decide +kernel)
  have hk : t.Makes brimWorkplace _ _ _ := .schema hl brimWorkplace_resolve hm
  exact ⟨.intro hr rfl rfl rfl rfl ht rfl, hc, rfl, _, _, _, hk, by decide +kernel⟩

end RecordSchema.CommandLine
