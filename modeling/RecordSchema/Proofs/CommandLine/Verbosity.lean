import RecordSchema.Proofs.CommandLine.Stages
import RecordSchema.Proofs.CommandLine.Summary
import RecordSchema.Proofs.Log.Line

/-! # Verbosity changes the error stream only

The flags for verbosity and the level that the environment asks for end up in the level of the
session, and the level decides which lines of the log are shown and whether there is a summary. Two
calls that differ in these alone end alike in everything else.
-/
namespace RecordSchema.CommandLine
variable {w : Surroundings} {args args' : List String} {r r' : Reading} {s s' : Session} {t : Task}
  {setting : Option String}

/-! ## Command lines that differ in their verbosity -/

def verbosityFlags : List String := ["-v", "--verbose", "-q", "--quiet"]

/-- A reading without its flags for verbosity. -/
def Reading.withoutVerbosity (r : Reading) : Reading :=
  { r with given := r.given.filter fun g => decide (g.1 ≠ .verbose ∧ g.1 ≠ .quiet) }

/-- Command lines that mean the same but for their flags for verbosity. -/
def Alike (args args' : List String) : Prop :=
  (read programParameters false args).map Reading.withoutVerbosity =
    (read programParameters false args').map Reading.withoutVerbosity

/-- Neither do the flags contradict each other, nor does the level of the environment fail. -/
def Legal (w : Surroundings) (args : List String) : Prop :=
  (∃ level, Log.readLevel w.levelSetting = .ok level) ∧
    ∀ r, read programParameters false args = .ok r →
      ¬ (0 < r.count .verbose ∧ 0 < r.count .quiet)

theorem withoutVerbosity_addGiven (more : List (Parameter × Option String)) (r : Reading) :
    (r.addGiven more).withoutVerbosity = r.withoutVerbosity.addGiven
      (more.filter fun g => decide (g.1 ≠ .verbose ∧ g.1 ≠ .quiet)) := by
  simp [Reading.withoutVerbosity, Reading.addGiven, List.filter_append]

theorem withoutVerbosity_has {p : Parameter} (hv : p ≠ .verbose) (hq : p ≠ .quiet) (r : Reading) :
    r.withoutVerbosity.has p = r.has p := by
  rw [Reading.has, Reading.has, Reading.withoutVerbosity, List.any_filter]
  congr 1
  funext g
  cases hg : g.1 == p with
  | false => rw [Bool.and_false]
  | true =>
    have hp := beq_iff_eq.mp hg
    simp [hp, hv, hq]

theorem Alike.cases (h : Alike args args') :
    (∃ e, read programParameters false args = .error e ∧
      read programParameters false args' = .error e) ∨
    ∃ r r', read programParameters false args = .ok r ∧
      read programParameters false args' = .ok r' ∧ r.withoutVerbosity = r'.withoutVerbosity := by
  unfold Alike at h
  cases hr : read programParameters false args with
  | error e =>
    rw [hr] at h
    exact .inl ⟨e, rfl, map_eq_error_iff.mp h.symm⟩
  | ok r =>
    rw [hr] at h
    cases hr' : read programParameters false args' with
    | error e => rw [hr'] at h; cases h
    | ok r' =>
      rw [hr'] at h
      exact .inr ⟨r, r', rfl, rfl, Except.ok.inj h⟩

/-- No parameter of the program takes a value. -/
theorem readMention_program (a : String) :
    (∃ e, readMention programParameters a = .error e) ∨
      ∃ more, readMention programParameters a = .ok (.given more) := by
  have hall : ∀ p ∈ programParameters, p.takesValue = false := by decide
  have ht : ∀ name p, named? programParameters name = some p → p.takesValue = false :=
    fun name p hp => hall p (List.mem_of_find?_eq_some hp)
  unfold readMention
  split_ifs
  · unfold readLong
    cases hp : named? programParameters (splitValue a).1 with
    | none => exact .inl ⟨_, by simp [hp]; rfl⟩
    | some p =>
      have htp := ht _ p hp
      cases hv : (splitValue a).2 with
      | none => exact .inr ⟨[(p, none)], by simp [hp, htp, hv]⟩
      | some v => exact .inl ⟨.takesNoValue (splitValue a).1, by simp [hp, htp, hv]⟩
  · cases hs : readSwitches programParameters (a.toList.drop 1) with
    | error e => exact .inl ⟨e, rfl⟩
    | ok more => exact .inr ⟨more, rfl⟩

theorem read_mention_cons {a : String} (hm : isMention a = true) (hd : a ≠ "--") :
    (∃ e, ∀ args, read programParameters false (a :: args) = .error e) ∨
      ∃ more, ∀ args, read programParameters false (a :: args) =
        (read programParameters false args).map (Reading.addGiven more) := by
  rcases readMention_program a with ⟨e, he⟩ | ⟨more, he⟩
  · refine .inl ⟨e, fun args => ?_⟩
    rw [read, if_neg hd, if_pos hm, he]
  · refine .inr ⟨more, fun args => ?_⟩
    rw [read, if_neg hd, if_pos hm, he]
    rfl

theorem Alike.cons {a : String} (hm : isMention a = true) (hd : a ≠ "--") (h : Alike args args') :
    Alike (a :: args) (a :: args') := by
  unfold Alike at h ⊢
  rcases read_mention_cons hm hd with ⟨e, he⟩ | ⟨more, he⟩
  · rw [he, he]
  · -- the flags drop out of what the first argument adds, and then it adds the same on both sides
    have hc : ∀ x : Except UsageError Reading,
        (x.map (Reading.addGiven more)).map Reading.withoutVerbosity =
          (x.map Reading.withoutVerbosity).map (Reading.addGiven
            (more.filter fun g => decide (g.1 ≠ .verbose ∧ g.1 ≠ .quiet))) := by
      intro x
      rw [map_map, map_map]
      simp only [withoutVerbosity_addGiven]
    rw [he, he, hc, hc, h]

theorem alike_flag_cons {flag : String} (hf : flag ∈ verbosityFlags) (args : List String) :
    Alike (flag :: args) args := by
  have hr : ∃ p, (p = .verbose ∨ p = .quiet) ∧
      read programParameters false (flag :: args) =
        (read programParameters false args).map (Reading.addGiven [(p, none)]) := by
    simp only [verbosityFlags, List.mem_cons, List.not_mem_nil, or_false] at hf
    rcases hf with rfl | rfl | rfl | rfl
    · exact ⟨.verbose, .inl rfl, rfl⟩
    · exact ⟨.verbose, .inl rfl, rfl⟩
    · exact ⟨.quiet, .inr rfl, rfl⟩
    · exact ⟨.quiet, .inr rfl, rfl⟩
  obtain ⟨p, hp, hr⟩ := hr
  rw [Alike, hr, map_map]
  congr 1
  funext r
  rw [withoutVerbosity_addGiven]
  rcases hp with rfl | rfl <;> rfl

/-- A flag for verbosity may stand anywhere among the parameters of the program. -/
theorem alike_insert {flag : String} (hf : flag ∈ verbosityFlags) {before : List String}
    (hb : ∀ a ∈ before, isMention a = true ∧ a ≠ "--") (after : List String) :
    Alike (before ++ flag :: after) (before ++ after) := by
  induction before with
  | nil => exact alike_flag_cons hf after
  | cons a before ih =>
    obtain ⟨⟨hm, hd⟩, hb⟩ := List.forall_mem_cons.mp hb
    exact (ih hb).cons hm hd

/-! ## Two calls side by side -/

/-- Two outcomes that differ in nothing but the error stream. -/
structure Outcome.SameResult (x y : Outcome) : Prop where
  exitCode : x.exitCode = y.exitCode
  output : x.output = y.output
  tree : x.tree = y.tree
  escaped : x.escaped = y.escaped

theorem start_of_legal (h : Legal w args) (hr : read programParameters false args = .ok r) :
    ∃ level, Session.start w r = .ok ⟨level, ⟨!r.has .noColour⟩⟩ := by
  obtain ⟨⟨level, hl⟩, hc⟩ := h
  have hn : ¬ ((0 : Int) < r.count .verbose ∧ (0 : Int) < r.count .quiet) := by
    have := hc r hr
    omega
  have hv : ∃ asked, verbosity (r.count .verbose) (r.count .quiet) = .ok asked := by
    rw [verbosity, if_neg hn]
    split_ifs <;> exact ⟨_, rfl⟩
  obtain ⟨asked, hv⟩ := hv
  exact ⟨_, Session.start_eq_ok_iff.mpr ⟨asked, level, hv, hl, rfl⟩⟩

theorem inSession_of_start (h : Session.start w r = .ok s) (next : Session → Outcome) :
    inSession w r next = next s := by
  rw [inSession, h]

/-- The level of the environment plays no part in what a task does. -/
theorem carryOut_levelSetting (t : Task) (c : Terminal.Console) :
    t.carryOut { w with levelSetting := setting } c = t.carryOut w c := by
  cases t <;> rfl

theorem finish_sameResult (h : s.console = s'.console) (x : Logged Failure Delivery) :
    (s.finish w x).SameResult (s'.finish { w with levelSetting := setting } x) := by
  unfold Session.finish
  cases x.result with
  | error f =>
    simp only [failed]
    cases f.reported? <;> exact ⟨rfl, rfl, rfl, rfl⟩
  | ok d => exact ⟨rfl, by rw [h], rfl, rfl⟩

theorem session_run_sameResult (h : s.console = s'.console) (w : Surroundings)
    (setting : Option String) (c : Command) (args : List String) :
    (s.run w c args).SameResult (s'.run { w with levelSetting := setting } c args) := by
  unfold Session.run
  cases c.read w.tree args with
  | error e => exact ⟨rfl, rfl, rfl, rfl⟩
  | ok task? =>
    cases task? with
    | none => exact ⟨rfl, rfl, rfl, rfl⟩
    | some t =>
      simp only [carryOut_levelSetting, h]
      exact finish_sameResult h _

theorem run_sameResult (h : Alike args args') (hl : Legal w args)
    (hl' : Legal { w with levelSetting := setting } args') :
    (run w args).SameResult (run { w with levelSetting := setting } args') := by
  unfold run
  rcases h.cases with ⟨e, hr, hr'⟩ | ⟨r, r', hr, hr', he⟩
  · rw [hr, hr']
    exact ⟨rfl, rfl, rfl, rfl⟩
  · have hrest : r'.rest = r.rest := (congrArg Reading.rest he).symm
    have hhas : ∀ p, p ≠ .verbose → p ≠ .quiet → r'.has p = r.has p := by
      intro p hv hq
      rw [← withoutVerbosity_has hv hq r, he, withoutVerbosity_has hv hq]
    obtain ⟨_, hs⟩ := start_of_legal hl hr
    obtain ⟨_, hs'⟩ := start_of_legal hl' hr'
    rw [hhas .noColour (by decide) (by decide)] at hs'
    -- both calls ask for help or not, and name the same command with the same arguments
    rw [hr, hr']
    simp only [hhas .help (by decide) (by decide), hrest]
    cases r.has .help with
    | true => exact ⟨rfl, rfl, rfl, rfl⟩
    | false =>
      cases r.rest with
      | nil =>
        simp only [inSession_of_start hs, inSession_of_start hs']
        exact ⟨rfl, rfl, rfl, rfl⟩
      | cons name rest =>
        cases hc : Command.ofName? name with
        | none =>
          simp only [hc, unknownCommand]
          cases read programParameters false (name :: rest) with
          | error e => exact ⟨rfl, rfl, rfl, rfl⟩
          | ok r =>
            cases r.has .help <;> exact ⟨rfl, rfl, rfl, rfl⟩
        | some c =>
          simp only [hc, inSession_of_start hs, inSession_of_start hs', Bool.false_eq_true,
            if_false]
          refine session_run_sameResult ?_ w setting c rest
          rfl

/-! ## The summary and the warnings -/

theorem Accepted.level_eq (h : Accepted w args s t) : ∃ r asked level,
    read programParameters false args = .ok r ∧
      verbosity (r.count .verbose) (r.count .quiet) = .ok asked ∧
      Log.readLevel w.levelSetting = .ok level ∧ s.level = level.getD asked := by
  cases h with
  | intro hr hh hn hc hs ht =>
    obtain ⟨asked, level, hv, hl, rfl⟩ := Session.start_eq_ok_iff.mp hs
    exact ⟨_, asked, level, hr, hv, hl, rfl⟩

/-- Flags for verbosity anywhere in front of the command, and whatever legal level the environment
asks for, change nothing but the error stream. What a run that ends well owes a summary for has one
exactly if the level lets warnings through. -/
theorem verbosity_decides_errors_only :
    (∀ flag ∈ verbosityFlags, ∀ before after, (∀ a ∈ before, isMention a = true ∧ a ≠ "--") →
      Alike (before ++ flag :: after) (before ++ after)) ∧
    (∀ w setting args args', Alike args args' → Legal w args →
      Legal { w with levelSetting := setting } args' →
        (run w args).SameResult (run { w with levelSetting := setting } args')) ∧
    ∀ w args s t log text owed, Accepted w args s t → t.Makes w log text owed →
      (run w args).exitCode = .success →
        (∃ r asked level, read programParameters false args = .ok r ∧
          verbosity (r.count .verbose) (r.count .quiet) = .ok asked ∧
          Log.readLevel w.levelSetting = .ok level ∧ s.level = level.getD asked) ∧
        (run w args).errors = s.logText (t.carryOut w s.console).log ++
          summary s.console s.level owed ∧
        (owed ≠ [] → (summary s.console s.level owed ≠ "" ↔ s.level ≤ Log.warning)) ∧
        ∀ message, (Log.Setup.atLevel s.level).output ⟨Log.warning, message⟩ ≠ "" ↔
          s.level ≤ Log.warning := by
  refine ⟨fun flag hf before after hb => alike_insert hf hb after,
    fun w setting args args' h hl hl' => run_sameResult h hl hl', ?_⟩
  intro w args s t log text owed ha hm hx
  refine ⟨ha.level_eq, ha.errors_of_success hm hx, fun hn => ?_, fun message => ?_⟩
  · have he := summary_eq_empty_iff hn s.console s.level
    rw [ne_eq, he, Int.not_lt]
  · rw [Log.output_ne_empty_iff]
    exact Log.shows_warning_iff

/-- The same place to work in where the environment asks for everything. -/
def loudWorkplace : Surroundings := { brimWorkplace with levelSetting := some "TRACE" }

theorem brimWorkplace_loud :
    (Alike ["-q", "schema"] ["-v", "schema"] ∧ Legal brimWorkplace ["-q", "schema"] ∧
      Legal loudWorkplace ["-v", "schema"] ∧
      (run brimWorkplace ["-q", "schema"]).SameResult (run loudWorkplace ["-v", "schema"])) ∧
    ∃ s t log text owed, Accepted loudWorkplace ["-v", "schema"] s t ∧
      t.Makes loudWorkplace log text owed ∧ owed ≠ [] ∧
      (run loudWorkplace ["-v", "schema"]).exitCode = .success ∧ s.level ≤ Log.warning ∧
      summary s.console s.level owed ≠ "" := by
  obtain ⟨hi, hs, hx⟩ := verbosity_decides_errors_only
  have hq : Alike ["-q", "schema"] ["schema"] := hi "-q" (by decide) [] ["schema"] (by simp)
  have hv : Alike ["-v", "schema"] ["schema"] := hi "-v" (by decide) [] ["schema"] (by simp)
  have ha : Alike ["-q", "schema"] ["-v", "schema"] := hq.trans hv.symm
  have hrq : read programParameters false ["-q", "schema"] =
      .ok ⟨[(.quiet, none)], ["schema"]⟩ := by decide
  have hrv : read programParameters false ["-v", "schema"] =
      .ok ⟨[(.verbose, none)], ["schema"]⟩ := by decide
  have hlq : Legal brimWorkplace ["-q", "schema"] := by
    refine ⟨⟨none, rfl⟩, fun r hr => ?_⟩
    cases hrq.symm.trans hr
    decide
  have hlv : Legal loudWorkplace ["-v", "schema"] := by
    refine ⟨⟨some Log.trace, by decide⟩, fun r hr => ?_⟩
    cases hrv.symm.trans hr
    decide
  refine ⟨⟨ha, hlq, hlv, hs _ _ _ _ ha hlq hlv⟩, ?_⟩
  have ht : Command.schema.read loudWorkplace.tree [] = .ok (some (.schema {} .text none)) := by
    decide
  have hstart : Session.start loudWorkplace ⟨[(.verbose, none)], ["schema"]⟩ =
      .ok ⟨Log.trace, ⟨true⟩⟩ := by rfl
  have hac : Accepted loudWorkplace ["-v", "schema"] ⟨Log.trace, ⟨true⟩⟩
      (.schema {} .text none) := .intro hrv rfl rfl rfl hstart ht
  have hl : (Sources.load {} loudWorkplace).result = .ok brimSettings := brimWorkplace_load
  have hk : (Task.schema {} .text none).Makes loudWorkplace _ _ _ :=
    .schema hl brimWorkplace_resolve brim_schema
  have hc : (run loudWorkplace ["-v", "schema"]).exitCode = .success := by decide +kernel
  obtain ⟨-, -, hw, -⟩ := hx _ _ _ _ _ _ _ hac hk hc
  exact ⟨_, _, _, _, _, hac, hk, by decide, hc, by decide, (hw (by decide)).mpr (by decide)⟩

end RecordSchema.CommandLine
