import RecordSchema.Proofs.CommandLine.Messages
import RecordSchema.Proofs.CommandLine.Stages
import RecordSchema.Proofs.CommandLine.Summary
import RecordSchema.Proofs.Log.Line

/-! # What turning colour off leaves coloured

Without colour the output, the summary and the messages of failures are plain. The lines of the log
are painted all the same, so the error stream holds a control sequence exactly if a line is shown.
-/
namespace RecordSchema.CommandLine
open Terminal (IsPlain HoldsSequence isPlain_append isPlain_join isPlain_literal)
variable {w : Surroundings} {args : List String} {s : Session} {t : Task} {src : Sources}
  {log : List Log.Record} {f : Failure} {text : String} {owed : List Notice}

/-- No text that a task works with has an escape: the directory, the values of the settings and the
record that they name. -/
structure Surroundings.Unescaped (w : Surroundings) (src : Sources) : Prop where
  directory : w.directory.IsPlain
  settings : ∀ settings, (src.load w).result = .ok settings → ∀ k, IsPlain (settings.get k)
  record : ∀ settings o, (src.load w).result = .ok settings →
    (w.library.resolve settings.record).result = .ok o → o.subject.Unescaped settings.tagKey

theorem isPlain_asLine {s : String} (h : IsPlain s) : IsPlain (asLine s) :=
  isPlain_append.mpr ⟨h, isPlain_literal rfl⟩

/-! ## Tasks -/

theorem isPlain_configText (settings : Settings) (format : OutputFormat) :
    IsPlain (configText settings format) := by
  cases format with
  | text =>
    refine Toml.isPlain_render fun e he => ?_
    obtain ⟨k, -, rfl⟩ := List.mem_map.mp he
    exact ⟨_, rfl⟩
  | json => exact isPlain_asLine (JsonValue.isPlain_indented _)

theorem isPlain_fieldsText {s : Subject} {tagKey : String} {ms : List MappedField}
    {ns : List Notice} (hs : s.Unescaped tagKey) (hm : (s.mapped tagKey).result = .ok (ms, ns))
    (format : OutputFormat) : IsPlain (fieldsText ms format) := by
  cases format with
  | json => exact isPlain_asLine (JsonValue.isPlain_indented _)
  | text =>
    obtain ⟨c, hints, ds, hc, hh, hd, -, -, rfl, -⟩ := mapped_eq_ok_iff.mp hm
    have hrow : ∀ r ∈ (ds.map Descriptor.mapped).map MappedField.row,
        ∀ column : FieldTable.Column, IsPlain (column.cell r) := by
      intro r hr column
      obtain ⟨m, hm, rfl⟩ := List.mem_map.mp hr
      obtain ⟨d, hmem, rfl⟩ := List.mem_map.mp hm
      obtain ⟨f, hf, hfd⟩ := exists_mem_left hd hmem
      obtain ⟨hn, -, ht, -⟩ := hs.fields c hints hc (hints_eq_ok_iff.mp hh) f hf
      cases column with
      | name =>
        show IsPlain d.name
        rw [hfd.name_eq]
        exact hn
      | tag => exact ht d.tag hfd.tag_eq
      | externalName => exact isPlain_lowerCamel d.tag
      | kind => exact isPlain_kind d.kind
      | type => exact isPlain_schemaType d.writtenType
    refine isPlain_join fun line hl => ?_
    obtain ⟨l, hm, rfl⟩ := List.mem_map.mp hl
    exact isPlain_asLine (FieldTable.isPlain_lines hrow l hm)

theorem Task.Makes.isPlain (h : t.Makes w log text owed)
    (hu : ∀ src, t.sources? = some src → w.Unescaped src) : IsPlain text := by
  cases h with
  | config hl => exact isPlain_configText _ _
  | fields hl ho hm => exact isPlain_fieldsText ((hu _ rfl).record _ _ hl ho) hm _
  | @schema src format out settings o schema hl ho hm =>
    cases format with
    | json => exact isPlain_asLine (JsonValue.isPlain_indented _)
    | text =>
      have hk := (hu _ rfl).settings settings hl
      have hv : ∀ v ∈ settings.views, IsPlain v.head ∧ IsPlain v.mark := by
        intro v hv
        simp only [Settings.views, List.mem_cons, List.not_mem_nil, or_false] at hv
        rcases hv with rfl | rfl
        · exact ⟨isPlain_append.mpr ⟨isPlain_literal rfl, hk .outputType⟩, isPlain_literal rfl⟩
        · exact ⟨isPlain_append.mpr ⟨isPlain_literal rfl, hk .inputType⟩, isPlain_literal rfl⟩
      rw [schema_result] at hm
      cases hms : (o.subject.mapped settings.tagKey).result with
      | error e => rw [hms] at hm; cases hm
      | ok p =>
        rw [hms] at hm
        cases hm
        exact isPlain_schemaText hv p.1

theorem Task.Stops.isPlain_message {stage : Stage} (h : t.Stops w stage log f) (ht : t.Unescaped)
    (hu : ∀ src, t.sources? = some src → w.Unescaped src) (hr : f.reported?.isSome) :
    IsPlain f.message := by
  have hsrc : ∀ src, t.recordSources? = some src → t.sources? = some src := by
    intro src hs
    cases t with
    | version | config => cases hs
    | fields | schema => exact hs
  unfold Failure.message
  cases h with
  | settings hs hl =>
    have hc : (Failure.settings _).reported?.isSome := hr
    refine Settings.isPlain_loadError (hu _ hs).directory (ht.files _ hs) hl ?_
    by_contra hn
    simp [Failure.reported?, hn] at hc
  | record hs hl ho => exact Library.isPlain_loadError _
  | mapping hs hl ho hm =>
    have hw := hu _ (hsrc _ hs)
    refine isPlain_schemaError (hw.record _ _ hl ho) (hw.settings _ hl .tagKey) hm ?_
    by_contra hn
    simp [Failure.reported?, hn] at hr
  | writing hl ho hm hw =>
    simp only [isPlain_append]
    exact ⟨⟨⟨isPlain_literal rfl, (ht.out _ rfl).text⟩, isPlain_literal rfl⟩,
      Settings.isPlain_fileMessage _ _⟩

/-! ## Runs -/

theorem failed_errors (w : Surroundings) (logged : String) {f : Failure}
    (hf : f.reported?.isSome → IsPlain f.message) :
    ∃ rest, IsPlain rest ∧ (failed w logged f).errors = logged ++ rest := by
  unfold failed
  cases hr : f.reported? with
  | none => exact ⟨"", isPlain_literal rfl, by simp⟩
  | some code =>
    have hp : IsPlain (asLine ("Error: " ++ f.message)) :=
      isPlain_asLine (isPlain_append.mpr ⟨isPlain_literal rfl, hf (by rw [hr]; rfl)⟩)
    exact ⟨_, hp, by rw [hp.plain_eq]⟩

/-- The version stands out only where there is colour. -/
theorem isPlain_version {c : Terminal.Console} (hc : c.colour = false) (format : OutputFormat) :
    ∃ text, IsPlain text ∧ (Task.version format).carryOut w c =
      ⟨[], .ok { output := [text], tree := w.tree }⟩ := by
  cases format with
  | json => exact ⟨_, isPlain_asLine (JsonValue.isPlain_onOneLine _), rfl⟩
  | text =>
    have he : c.embolden Library.programVersion = Library.programVersion := by
      rw [Terminal.Console.embolden, hc]
      rfl
    refine ⟨asLine Library.programVersion, isPlain_asLine (isPlain_literal rfl), ?_⟩
    rw [Task.carryOut, showVersion, he]
    rfl

/-- Without colour a task puts out a plain text, and so is all that it adds to its log. -/
theorem Accepted.plain_but_for_log (h : Accepted w args s t) (hc : s.console.colour = false)
    (ht : t.Unescaped) (hu : ∀ src, t.sources? = some src → w.Unescaped src) :
    IsPlain (run w args).output ∧ ∃ rest, IsPlain rest ∧
      (run w args).errors = s.logText (t.carryOut w s.console).log ++ rest := by
  have hsum : ∀ owed, IsPlain (summary s.console s.level owed) := isPlain_summary hc s.level
  cases hs : t.sources? with
  | none =>
    cases t with
    | config | fields | schema => cases hs
    | version format =>
      obtain ⟨text, hp, hv⟩ := isPlain_version (w := w) hc format
      rw [h.run_eq, hv]
      refine ⟨?_, _, hsum [], rfl⟩
      show IsPlain (shown s.console [text])
      rw [shown_single, hp.put_eq]
      exact hp
  | some src =>
    rcases Task.stops_or_makes (w := w) hs with ⟨stage, log, f, hf⟩ | ⟨log, text, owed, hm, hw⟩
    · rw [h.run_of_stops hf, hf.carryOut_eq]
      refine ⟨?_, failed_errors w _ (hf.isPlain_message ht hu)⟩
      rw [(failed_output w _ f).1]
      exact isPlain_literal rfl
    · cases ho : t.out? with
      | none =>
        have hp := hm.isPlain hu
        obtain ⟨texts, -, he⟩ := hm.carryOut_eq ho s.console
        rw [h.run_of_makes hm ho, he]
        refine ⟨?_, _, hsum owed, rfl⟩
        rw [hp.put_eq]
        exact hp
      | some p =>
        obtain ⟨tree, hw⟩ := hw p ho
        rw [h.run_of_written hm ho hw]
        exact ⟨isPlain_literal rfl, _, hsum owed, rfl⟩

theorem Accepted.colourless (h : Accepted w args s t) (ha : ∀ a ∈ args, IsPlain a)
    (hn : ∀ r, read programParameters false args = .ok r → r.has .noColour = true) :
    s.console.colour = false ∧ t.Unescaped := by
  cases h with
  | intro hr hh hrest hc hs ht =>
    obtain ⟨_, _, -, -, rfl⟩ := Session.start_eq_ok_iff.mp hs
    have hp := ((read_unescaped _ _ ha).1 _ hr).rest
    rw [hrest] at hp
    refine ⟨?_, (command_read_unescaped _ (List.forall_mem_cons.mp hp).2 _).1 t ht⟩
    simp [hn _ hr]

theorem Session.isPlain_message_of_error {r : Reading} (h : Session.start w r = .error f) :
    f.reported?.isSome → IsPlain f.message := by
  rw [Session.start] at h
  cases hv : verbosity (r.count .verbose) (r.count .quiet) with
  | error e =>
    rw [hv] at h
    cases h
    exact fun _ => isPlain_literal rfl
  | ok asked =>
    rw [hv] at h
    cases hl : Log.readLevel w.levelSetting with
    | error e =>
      rw [hl] at h
      cases h
      exact fun hr => by cases hr
    | ok level =>
      rw [hl] at h
      cases h

/-- What appears on either stream has no escape. -/
structure Outcome.IsPlain (x : Outcome) : Prop where
  output : Terminal.IsPlain x.output
  errors : Terminal.IsPlain x.errors

theorem isPlain_misused {e : UsageError} (he : e.Unescaped) (scope : Scope) :
    (misused w scope e).IsPlain := ⟨isPlain_literal rfl, he.report scope⟩

theorem isPlain_helped (scope : Scope) : (helped w scope).IsPlain :=
  ⟨isPlain_asLine (isPlain_helpText scope), isPlain_literal rfl⟩

theorem isPlain_unknownCommand {name : String} {rest : List String}
    (ha : ∀ a ∈ name :: rest, IsPlain a) : (unknownCommand w name rest).IsPlain := by
  obtain ⟨-, herr⟩ := read_unescaped programParameters false ha
  unfold unknownCommand
  cases hr : read programParameters false (name :: rest) with
  | error e => exact isPlain_misused (herr e hr) _
  | ok r =>
    simp only
    split_ifs
    · exact isPlain_helped _
    · have he : (UsageError.noSuchCommand name
          (Text.closest name (Command.all.map Command.name))).Unescaped := trivial
      exact isPlain_misused he _

/-- A session that cannot begin leaves at most a message. -/
theorem isPlain_inSession {r : Reading} {next : Session → Outcome}
    (h : ∀ s, Session.start w r = .ok s → (next s).IsPlain) : (inSession w r next).IsPlain := by
  unfold inSession
  cases hs : Session.start w r with
  | ok s => exact h s hs
  | error f =>
    obtain ⟨rest, hp, he⟩ := failed_errors w "" (Session.isPlain_message_of_error hs)
    refine ⟨?_, ?_⟩
    · simp only [(failed_output w "" f).1]
      exact isPlain_literal rfl
    · simpa only [he, String.empty_append] using hp

/-- A call that carries out no task says what is wrong, or shows a help page. -/
theorem isPlain_of_unaccepted (ha : ∀ a ∈ args, IsPlain a) (h : ∀ s t, ¬ Accepted w args s t) :
    (run w args).IsPlain := by
  obtain ⟨hok, herr⟩ := read_unescaped programParameters false ha
  unfold run
  cases hr : read programParameters false args with
  | error e => exact isPlain_misused (herr e hr) _
  | ok r =>
    have hrest := (hok r hr).rest
    simp only
    cases hh : r.has .help with
    | true => exact isPlain_helped _
    | false =>
      simp only [Bool.false_eq_true, if_false]
      cases hn : r.rest with
      | nil =>
        have hp : IsPlain (hintText ++ asLine (helpText .program)) := by
          simp only [hintText, isPlain_append]
          exact ⟨⟨⟨isPlain_literal rfl, isPlain_path _⟩, isPlain_literal rfl⟩,
            isPlain_asLine (isPlain_helpText _)⟩
        simp only [hp.put_eq]
        exact isPlain_inSession fun s _ => ⟨hp, isPlain_literal rfl⟩
      | cons name rest =>
        rw [hn] at hrest
        cases hc : Command.ofName? name with
        | none => simpa only [hc] using isPlain_unknownCommand hrest
        | some c =>
          simp only [hc]
          refine isPlain_inSession fun s hs => ?_
          obtain ⟨-, herr⟩ := command_read_unescaped w.tree
            (List.forall_mem_cons.mp hrest).2 c
          unfold Session.run
          cases ht : c.read w.tree rest with
          | error e => exact isPlain_misused (herr e ht) _
          | ok task? =>
            cases task? with
            | none => exact isPlain_helped _
            | some t => exact absurd (.intro hr hh hn hc hs ht) (h s t)

/-- The log puts a control sequence on the error stream exactly if a line of it is shown. -/
theorem holdsSequence_logText_iff {rest : String} (hp : IsPlain rest) :
    HoldsSequence (s.logText log ++ rest) ↔
      ∃ r ∈ log, (Log.Setup.atLevel s.level).shows r.level = true := by
  unfold Session.logText
  -- hidden records leave nothing, so the first one that is shown decides
  induction log with
  | nil =>
    have hn : ¬ HoldsSequence rest := hp.not_holdsSequence
    simpa using hn
  | cons r log ih =>
    rw [List.map_cons, String.join_cons, String.append_assoc]
    cases hs : (Log.Setup.atLevel s.level).shows r.level with
    | true => exact iff_of_true (Log.holdsSequence_output hs _) ⟨r, List.mem_cons_self, hs⟩
    | false =>
      rw [Log.output_of_hidden hs, String.empty_append, ih]
      simp [hs]

/-- Where colour is turned off and nothing that goes into a call has an escape, what it puts out is
plain, and so is all that it says but for the log. The lines of the log are painted all the same. -/
theorem colourless_but_for_log (ha : ∀ a ∈ args, IsPlain a)
    (hn : ∀ r, read programParameters false args = .ok r → r.has .noColour = true)
    (hu : ∀ s t src, Accepted w args s t → t.sources? = some src → w.Unescaped src) :
    IsPlain (run w args).output ∧
    ((∀ s t, ¬ Accepted w args s t) → IsPlain (run w args).errors) ∧
    (∀ s t, Accepted w args s t → ∃ rest, IsPlain rest ∧
      (run w args).errors = s.logText (t.carryOut w s.console).log ++ rest) ∧
    (HoldsSequence (run w args).errors ↔ ∃ s t, Accepted w args s t ∧
      ∃ r ∈ (t.carryOut w s.console).log, (Log.Setup.atLevel s.level).shows r.level = true) := by
  have hacc : ∀ s t, Accepted w args s t → IsPlain (run w args).output ∧ ∃ rest, IsPlain rest ∧
      (run w args).errors = s.logText (t.carryOut w s.console).log ++ rest := by
    intro s t h
    obtain ⟨hc, ht⟩ := h.colourless ha hn
    exact h.plain_but_for_log hc ht fun src => hu s t src h
  by_cases h : ∃ s t, Accepted w args s t
  · obtain ⟨s, t, h⟩ := h
    obtain ⟨hp, rest, hr, he⟩ := hacc s t h
    refine ⟨hp, fun hno => absurd h (hno s t), fun s t h => (hacc s t h).2, ?_, ?_⟩
    · intro hx
      rw [he, holdsSequence_logText_iff hr] at hx
      exact ⟨s, t, h, hx⟩
    · rintro ⟨s', t', h', hx⟩
      obtain ⟨-, rest', hr', he'⟩ := hacc s' t' h'
      rw [he', holdsSequence_logText_iff hr']
      exact hx
  · have hno : ∀ s t, ¬ Accepted w args s t := fun s t hx => h ⟨s, t, hx⟩
    obtain ⟨hp, he⟩ := isPlain_of_unaccepted ha hno
    refine ⟨hp, fun _ => he, fun s t hx => absurd hx (hno s t), ?_⟩
    exact iff_of_false he.not_holdsSequence fun ⟨s, t, hx, _⟩ => hno s t hx

theorem brim_unescaped : (Subject.cls brim).Unescaped defaultTagKey := by
  have hc : (Subject.cls brim).record? = some brim := rfl
  have hh : lineageHints brim.scope brim.lineage = .ok [("level", .intType)] := rfl
  refine ⟨fun h => (by cases h), fun c cause h he => ?_, fun c hints h he => ?_⟩
  · cases hc.symm.trans h
    cases hh.symm.trans he
  · cases hc.symm.trans h
    cases hh.symm.trans he
    intro f hf
    cases List.mem_singleton.mp hf
    refine ⟨isPlain_literal rfl, fun shown h => ?_, by decide, fun v h => ?_⟩
    · cases h
      exact isPlain_literal rfl
    · cases h
      exact isPlain_literal rfl

theorem brimWorkplace_unescaped : brimWorkplace.Unescaped {} := by
  refine ⟨⟨isPlain_literal rfl, by decide⟩, fun settings h k => ?_, fun settings o h hr => ?_⟩
  · cases brimWorkplace_load.symm.trans h
    cases k <;> exact isPlain_literal rfl
  · cases brimWorkplace_load.symm.trans h
    cases brimWorkplace_resolve.symm.trans hr
    exact brim_unescaped

theorem brimWorkplace_painted :
    let args := ["--no-color", "schema"]
    (∃ s t, Accepted brimWorkplace args s t ∧ s.console.colour = false) ∧
    brimWorkplace.Unescaped {} ∧ IsPlain (run brimWorkplace args).output ∧
    HoldsSequence (run brimWorkplace args).errors := by
  intro args
  have hr : read programParameters false args = .ok ⟨[(.noColour, none)], ["schema"]⟩ := by decide
  have hs : Session.start brimWorkplace ⟨[(.noColour, none)], ["schema"]⟩ =
      .ok ⟨Log.warning, ⟨false⟩⟩ := rfl
  have ht : Command.schema.read brimWorkplace.tree [] = .ok (some (.schema {} .text none)) := by
    decide
  have ha : Accepted brimWorkplace args ⟨Log.warning, ⟨false⟩⟩ (.schema {} .text none) :=
    .intro hr rfl rfl rfl hs ht
  have hshown : ∃ r ∈ ((Task.schema {} .text none).carryOut brimWorkplace ⟨false⟩).log,
      (Log.Setup.atLevel Log.warning).shows r.level = true := by
    decide +kernel
  have hplain : ∀ a ∈ args, IsPlain a := by decide
  have hcolour : ∀ r, read programParameters false args = .ok r → r.has .noColour = true := by
    intro r h
    cases hr.symm.trans h
    rfl
  have hinput : ∀ s t src, Accepted brimWorkplace args s t → t.sources? = some src →
      brimWorkplace.Unescaped src := by
    intro s t src h hsrc
    obtain ⟨-, rfl⟩ := ha.unique h
    cases hsrc
    exact brimWorkplace_unescaped
  obtain ⟨hp, -, -, hx⟩ := colourless_but_for_log hplain hcolour hinput
  exact ⟨⟨_, _, ha, rfl⟩, brimWorkplace_unescaped, hp, hx.mpr ⟨_, _, ha, hshown⟩⟩

end RecordSchema.CommandLine
