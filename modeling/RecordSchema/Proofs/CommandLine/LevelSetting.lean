import RecordSchema.Proofs.CommandLine.Delivery
import RecordSchema.Proofs.Log.Level

/-! # What the level of the environment does to a call

The level that the environment asks for is read when a session begins, before the command looks at
its own arguments. A setting that asks for nothing is passed over. Digits that write no number are
not passed over: their error ends every call that begins a session, whatever its command.
-/
namespace RecordSchema.CommandLine
open Log (readLevel levelWord OnlyDigits Illegible LevelError)
variable {w : Surroundings} {args : List String} {r : Reading} {e : LevelError}

theorem escaped_level_iff (w : Surroundings) (logged : String) (f : Failure) :
    (failed w logged f).escaped = some (.level e) ↔ f = .level e := by
  unfold failed
  constructor
  · intro h
    cases hr : f.reported? with
    | some code => rw [hr] at h; cases h
    | none =>
      rw [hr] at h
      exact Option.some.inj h
  · rintro rfl
    rfl

theorem Session.level_of_start (h : Session.start w r = .error (.level e)) :
    (∃ level, verbosity (r.count .verbose) (r.count .quiet) = .ok level) ∧
      readLevel w.levelSetting = .error e := by
  rw [Session.start] at h
  cases hv : verbosity (r.count .verbose) (r.count .quiet) with
  | error e => rw [hv] at h; cases h
  | ok asked =>
    rw [hv] at h
    cases hl : readLevel w.levelSetting with
    | ok level => rw [hl] at h; cases h
    | error e =>
      rw [hl] at h
      cases h
      exact ⟨⟨asked, rfl⟩, rfl⟩

/-- Once a session has begun, its level is no reason to fail. -/
theorem Task.carryOut_ne_level (t : Task) (c : Terminal.Console) :
    (t.carryOut w c).result ≠ .error (.level e) := by
  cases hs : t.sources? with
  | none =>
    cases t with
    | version format => cases format <;> exact fun h => by cases h
    | config | fields | schema => cases hs
  | some src =>
    rcases Task.stops_or_makes (w := w) hs with ⟨stage, log, f, hf⟩ | ⟨log, text, owed, hm, hw⟩
    · rw [hf.carryOut_eq]
      intro h
      cases h
      cases hf
    · cases ho : t.out? with
      | none =>
        obtain ⟨texts, -, he⟩ := hm.carryOut_eq ho c
        rw [he]
        exact fun h => by cases h
      | some p =>
        obtain ⟨tree, hw⟩ := hw p ho
        obtain ⟨message, he⟩ := hm.carryOut_written ho hw c
        rw [he]
        exact fun h => by cases h

theorem Session.finish_escaped_ne_level (s : Session) {x : Logged Failure Delivery}
    (hx : x.result ≠ .error (.level e)) : (s.finish w x).escaped ≠ some (.level e) := by
  unfold Session.finish
  intro h
  cases hr : x.result with
  | ok d => rw [hr] at h; cases h
  | error f =>
    rw [hr] at h
    rw [(escaped_level_iff _ _ _).mp h] at hr
    exact hx hr

theorem Session.run_escaped_ne_level (s : Session) (c : Command) :
    (s.run w c args).escaped ≠ some (.level e) := by
  unfold Session.run
  match c.read w.tree args with
  | .error e => exact fun h => by cases h
  | .ok none => exact fun h => by cases h
  | .ok (some t) => exact s.finish_escaped_ne_level (t.carryOut_ne_level s.console)

theorem unknownCommand_escaped (w : Surroundings) (name : String) (args : List String) :
    (unknownCommand w name args).escaped = none := by
  unfold unknownCommand
  cases read programParameters false (name :: args) with
  | error e => rfl
  | ok r =>
    dsimp only
    cases r.has .help <;> rfl

theorem inSession_escaped {next : Session → Outcome}
    (hn : ∀ s, (next s).escaped ≠ some (.level e))
    (h : (inSession w r next).escaped = some (.level e)) :
    Session.start w r = .error (.level e) := by
  unfold inSession at h
  cases hs : Session.start w r with
  | ok s => rw [hs] at h; exact absurd h (hn s)
  | error f =>
    rw [hs] at h
    rw [(escaped_level_iff _ _ _).mp h]

theorem opens_of_escaped (h : (run w args).escaped = some (.level e)) :
    Opens args ∧ readLevel w.levelSetting = .error e := by
  -- every other way for a call to end is ruled out, in the order in which it comes up
  unfold run at h
  cases hr : read programParameters false args with
  | error e => rw [hr] at h; cases h
  | ok r =>
    rw [hr] at h
    cases hh : r.has .help with
    | true => simp only [hh, if_true] at h; cases h
    | false =>
      simp only [hh, Bool.false_eq_true, if_false] at h
      cases hrest : r.rest with
      | nil =>
        rw [hrest] at h
        have hs := inSession_escaped (fun s hs => by cases hs) h
        obtain ⟨⟨level, hv⟩, hl⟩ := Session.level_of_start hs
        exact ⟨.intro hr hh (by simp [hrest]) hv, hl⟩
      | cons name rest =>
        rw [hrest] at h
        cases hc : Command.ofName? name with
        | none =>
          simp only [hc] at h
          rw [unknownCommand_escaped] at h
          cases h
        | some c =>
          simp only [hc] at h
          have hs := inSession_escaped (fun s => s.run_escaped_ne_level c) h
          obtain ⟨⟨level, hv⟩, hl⟩ := Session.level_of_start hs
          exact ⟨.intro hr hh (by simp [hrest, hc]) hv, hl⟩

/-- A setting asks for the number that its decimal digits write or for the level that it names, and
otherwise for nothing, unless all of its characters are digits and one of them is no decimal digit
or there are too many. Then reading it fails, and so does every call that begins a session, by an
error that no exit code stands for; no call fails like this for another reason. -/
theorem illegible_setting_escapes (setting : Option String) :
    (∀ n, readLevel setting = .ok (some n) ↔ ∃ s, setting = some s ∧
      ((∃ k : Nat, Text.Decimal (levelWord s) k ∧ (levelWord s).length ≤ Text.digitLimit ∧ n = k) ∨
        (String.ofList (levelWord s), n) ∈ Log.settingNames)) ∧
    (readLevel setting = .ok none ↔ ∀ s, setting = some s →
      (∀ n, (String.ofList (levelWord s), n) ∉ Log.settingNames) ∧ ¬ OnlyDigits (levelWord s)) ∧
    (∀ e, readLevel setting = .error e ↔
      ∃ s, setting = some s ∧ OnlyDigits (levelWord s) ∧ Illegible (levelWord s) e) ∧
    ((∃ e, readLevel setting = .error e) ↔ ∃ s, setting = some s ∧ OnlyDigits (levelWord s) ∧
      ((∃ c ∈ levelWord s, Text.decimalValue? c = none) ∨
        Text.digitLimit < (levelWord s).length)) ∧
    ∀ w args e, w.levelSetting = setting →
      ((run w args).escaped = some (.level e) ↔ Opens args ∧ readLevel setting = .error e) ∧
      (Opens args → readLevel setting = .error e →
        run w args = failed w "" (.level e) ∧ (run w args).exitCode = .failure) := by
  refine ⟨fun n => Log.readLevel_eq_level_iff, Log.readLevel_eq_nothing_iff,
    fun e => Log.readLevel_eq_error_iff, ?_, ?_⟩
  · constructor
    · rintro ⟨e, he⟩
      obtain ⟨s, hs, hd, hi⟩ := Log.readLevel_eq_error_iff.mp he
      exact ⟨s, hs, hd, Log.exists_illegible_iff.mp ⟨e, hi⟩⟩
    · rintro ⟨s, hs, hd, hc⟩
      obtain ⟨e, hi⟩ := Log.exists_illegible_iff.mpr hc
      exact ⟨e, Log.readLevel_eq_error_iff.mpr ⟨s, hs, hd, hi⟩⟩
  · rintro w args e rfl
    refine ⟨⟨opens_of_escaped, ?_⟩, fun ho hl => ?_⟩
    · rintro ⟨ho, hl⟩
      rw [ho.run_of_level_error hl]
      rfl
    · have hr := ho.run_of_level_error hl
      exact ⟨hr, by rw [hr]; rfl⟩

/-- The same place to work in where the environment asks for a power. -/
def squareWorkplace : Surroundings := { brimWorkplace with levelSetting := some " ²\n" }

/-- A superscript looks like a digit without being a decimal one. -/
theorem squareWorkplace_escapes :
    OnlyDigits (levelWord " ²\n") ∧ Opens ["config"] ∧
    readLevel squareWorkplace.levelSetting = .error (.notDecimal "²") ∧
    (run squareWorkplace ["config"]).escaped = some (.level (.notDecimal "²")) ∧
    (run squareWorkplace ["config"]).exitCode = .failure := by
  obtain ⟨-, -, he, -, hx⟩ := illegible_setting_escapes (some " ²\n")
  have hd : OnlyDigits (levelWord " ²\n") := by decide +kernel
  have hl : readLevel squareWorkplace.levelSetting = .error (.notDecimal "²") :=
    (he _).mpr ⟨_, rfl, hd, .notDecimal (by decide +kernel) ⟨'²', by decide +kernel⟩⟩
  have hr : read programParameters false ["config"] = .ok { rest := ["config"] } := by decide
  have ho : Opens ["config"] := .intro hr rfl (by decide) rfl
  obtain ⟨hi, hf⟩ := hx squareWorkplace ["config"] (.notDecimal "²") rfl
  exact ⟨hd, ho, hl, hi.mpr ⟨ho, hl⟩, (hf ho hl).2⟩

end RecordSchema.CommandLine
