import RecordSchema.Proofs.CommandLine.Stages
import RecordSchema.Proofs.CommandLine.Summary
import RecordSchema.Proofs.FileTree
import RecordSchema.Proofs.Log.Line
import RecordSchema.Proofs.Schema.Warnings

/-! # Every notice is logged once and reported once

The warnings in the log of a command are its notices, in the same order, and the counts that the
command reports are the numbers of these records.
-/
namespace RecordSchema.CommandLine
variable {w : Surroundings} {args : List String} {s : Session} {src : Sources}
  {settings : Settings} {o : Library.Object} {schema : Schema}

theorem resolve_warnings (library : Library) (path : String) :
    (library.resolve path).warnings = [] :=
  Logged.warnings_bind_eq_nil rfl fun _ =>
    Logged.warnings_bind_eq_nil (Logged.warnings_write (by decide) _) fun _ => rfl

/-- The counts of a number of warnings. -/
def warningCounts (k : Nat) : JsonValue :=
  .object [("info", .number 0), ("warning", .number k), ("error", .number 0)]

theorem countsJson_of_warnings {ns : List Notice} (h : ∀ n ∈ ns, n.level = .warning) :
    countsJson ns = warningCounts ns.length := by
  simp [countsJson, warningCounts, Severity.all, Severity.name, Notice.count_of_warnings h]

theorem schemaJson_of_warnings (h : ∀ n ∈ settings.notices ++ schema.notices, n.level = .warning) :
    ∃ entries, schemaJson settings schema = .object (entries ++
      [("counts", warningCounts (settings.notices ++ schema.notices).length)]) := by
  rw [schemaJson, countsJson_of_warnings h]
  exact ⟨[_, _, _, _, _], rfl⟩

/-- What is logged as warnings while settings are loaded, their record is looked up and a schema of
it is built. -/
def warned (tree : FileTree) (r : Settings.Request) (library : Library) (settings : Settings)
    (s : Subject) (views : List View) : List Log.Record :=
  (Settings.load tree r).warnings ++ ((library.resolve settings.record).warnings ++
    (s.schema settings.tagKey views).warnings)

/-- A schema that is written to a file adds one line to the log, which is no warning. -/
theorem carryOut_schema_warnings (format : OutputFormat) (out : Option Path)
    (hl : (src.load w).result = .ok settings)
    (ho : (w.library.resolve settings.record).result = .ok o)
    (hm : (o.subject.schema settings.tagKey settings.views).result = .ok schema)
    (c : Terminal.Console) :
    ((Task.schema src format out).carryOut w c).warnings =
      warned w.tree (src.request w.directory) w.library settings o.subject settings.views := by
  have hk : (Task.schema src format out).Makes w _ _ _ := .schema hl ho hm
  -- behind the three stages there is at most the line about the file
  have hw : ∀ more : List Log.Record, (∀ r ∈ more, r.level < Log.warning) →
      (((src.load w).log ++ ((w.library.resolve settings.record).log ++
        (o.subject.schema settings.tagKey settings.views).log)) ++ more).filter
          (fun r => decide (Log.warning ≤ r.level)) =
        warned w.tree (src.request w.directory) w.library settings o.subject settings.views := by
    intro more hq
    have hn : more.filter (fun r => decide (Log.warning ≤ r.level)) = [] := by
      rw [List.filter_eq_nil_iff]
      intro r hr
      have := hq r hr
      simpa using this
    rw [List.filter_append, hn, List.append_nil, List.filter_append, List.filter_append]
    rfl
  cases out with
  | none =>
    obtain ⟨texts, -, he⟩ := hk.carryOut_eq rfl c
    rw [Logged.warnings, he, ← hw [] (by simp), List.append_nil]
  | some p =>
    cases hp : w.tree.write p (schemaText settings schema format) with
    | error e =>
      have hs : (Task.schema src format (some p)).Stops w _ _ _ := .writing hl ho hm hp
      rw [Logged.warnings, hs.carryOut_eq, ← hw [] (by simp), List.append_nil]
    | ok tree =>
      obtain ⟨message, he⟩ := hk.carryOut_written rfl hp c
      rw [Logged.warnings, he]
      exact hw [⟨Log.info, message⟩] (by simp; decide)

theorem summary_owedFor {ns : List Notice} (h : ∀ n ∈ ns, n.level = .warning)
    (format : OutputFormat) (c : Terminal.Console) (level : Int) :
    summary c level (owedFor format ns) =
      match format with
      | .text => warningSummary c level ns.length
      | .json => "" := by
  cases format with
  | text => exact summary_of_warnings h c level
  | json => rfl

section
variable {tree : FileTree} {request : Settings.Request} {subject : Subject} {views : List View}

theorem length_warned (hl : (Settings.load tree request).result = .ok settings)
    (hm : (subject.schema settings.tagKey views).result = .ok schema) (library : Library) :
    (warned tree request library settings subject views).length =
      (settings.notices ++ schema.notices).length := by
  obtain ⟨ds, -, hs, hn⟩ := schema_warnings hm
  rw [warned, Settings.load_warnings hl, resolve_warnings, hs, hn]
  simp

theorem warned_level (hl : (Settings.load tree request).result = .ok settings)
    (hm : (subject.schema settings.tagKey views).result = .ok schema) (library : Library) :
    ∀ r ∈ warned tree request library settings subject views, r.level = Log.warning := by
  obtain ⟨ds, -, hs, -⟩ := schema_warnings hm
  intro r hr
  rw [warned, Settings.load_warnings hl, resolve_warnings, hs, List.nil_append] at hr
  rcases List.mem_append.mp hr with hr | hr
  · obtain ⟨n, -, rfl⟩ := List.mem_map.mp hr
    rfl
  · obtain ⟨p, -, rfl⟩ := List.mem_map.mp hr
    rfl

theorem notices_level (hl : (Settings.load tree request).result = .ok settings)
    (hm : (subject.schema settings.tagKey views).result = .ok schema) :
    ∀ n ∈ settings.notices ++ schema.notices, n.level = .warning := by
  obtain ⟨ds, -, -, hs⟩ := schema_warnings hm
  intro n hn
  rcases List.mem_append.mp hn with hn | hn
  · exact Settings.load_notices_level hl n hn
  · rw [hs] at hn
    obtain ⟨p, -, rfl⟩ := List.mem_map.mp hn
    rfl

end

theorem shows_of_warning {r : Log.Record} (h : r.level = Log.warning) {level : Int}
    (hl : level ≤ Log.warning) : (Log.Setup.atLevel level).shows r.level = true := by
  rw [h, Log.shows_warning_iff]
  exact hl

/-- Settings that load, a record that is found and a schema that is built have one warning in the
log for each notice, in order: that of a settings notice has its text, and that of a notice about a
number names the same field and native type. The command counts them as many as they are, both in
JSON and in the summary, and at the levels at which there is a summary it shows them all. -/
theorem notices_are_logged {tree : FileTree} {r : Settings.Request} {library : Library}
    {views : List View} (hl : (Settings.load tree r).result = .ok settings)
    (ho : (library.resolve settings.record).result = .ok o)
    (hm : (o.subject.schema settings.tagKey views).result = .ok schema) :
    ((Settings.load tree r).warnings = settings.notices.map (fun n => ⟨Log.warning, n.message⟩) ∧
      (library.resolve settings.record).warnings = [] ∧
      ∃ ds, (o.subject.descriptors settings.tagKey).result = .ok ds ∧
        (o.subject.schema settings.tagKey views).warnings =
          (overflowing ds).map (fun p => ⟨Log.warning, overflowRecord p.1⟩) ∧
        schema.notices = (overflowing ds).map fun p => overflowNotice p.1 (toString p.2)) ∧
    (warned tree r library settings o.subject views).length =
      (settings.notices ++ schema.notices).length ∧
    ∀ w args s src format out, Accepted w args s (.schema src format out) → w.tree = tree →
      src.request w.directory = r → w.library = library → settings.views = views →
      let x := (Task.schema src format out).carryOut w s.console
      let k := x.warnings.length
      x.warnings = warned tree r library settings o.subject views ∧
      (∃ entries, schemaText settings schema .json =
        asLine (JsonValue.object (entries ++ [("counts", warningCounts k)])).indented) ∧
      ((run w args).exitCode = .success →
        (match out with
          | none => (run w args).output = s.console.put (schemaText settings schema format) false
          | some p => (run w args).tree.read p = .ok (.text (schemaText settings schema format))) ∧
        (run w args).errors = s.logText x.log ++ match format with
          | .text => warningSummary s.console s.level k
          | .json => "") ∧
      (s.level ≤ Log.warning →
        ∀ record ∈ x.warnings, (Log.Setup.atLevel s.level).shows record.level = true) := by
  obtain ⟨ds, hds, hsw, hsn⟩ := schema_warnings hm
  have hwarn := notices_level hl hm
  have hlen := length_warned hl hm library
  refine ⟨⟨Settings.load_warnings hl, resolve_warnings library settings.record, ds, hds, hsw, hsn⟩,
    hlen, ?_⟩
  rintro w args s src format out ha rfl rfl rfl rfl
  have hlog := carryOut_schema_warnings format out hl ho hm s.console
  have hk : (Task.schema src format out).Makes w _ _ _ := .schema hl ho hm
  intro x k
  have hkl : k = (settings.notices ++ schema.notices).length :=
    (congrArg List.length hlog).trans hlen
  refine ⟨hlog, ?_, fun hx => ?_, fun hlevel record hr => ?_⟩
  · obtain ⟨entries, he⟩ := schemaJson_of_warnings hwarn
    exact ⟨entries, by rw [schemaText, he, hkl]⟩
  · have he := ha.errors_of_success hk hx
    rw [summary_owedFor hwarn, ← hkl] at he
    refine ⟨?_, he⟩
    cases out with
    | none => rw [ha.run_of_makes hk rfl]
    | some p =>
      obtain ⟨tree, hw⟩ := ha.write_of_success hk rfl hx
      rw [ha.run_of_written hk rfl hw]
      exact FileTree.read_of_write hw
  · rw [hlog] at hr
    exact shows_of_warning (warned_level hl hm w.library record hr) hlevel

theorem brimWorkplace_notices :
    Accepted brimWorkplace ["schema"] ⟨Log.warning, ⟨true⟩⟩ (.schema {} .text none) ∧
    ∃ log : List Log.Record, log.filter (fun r => decide (Log.warning ≤ r.level)) =
        [⟨Log.warning, "confql.toml: unknown settings key 'hue'"⟩,
          ⟨Log.warning, "value exceeds GraphQL Int32 range, using String type instead " ++
            "(name=level, type=int)"⟩] ∧
      (run brimWorkplace ["schema"]).errors = Session.logText ⟨Log.warning, ⟨true⟩⟩ log ++
        (Terminal.yellow.apply "confql: 2 warning(s)" ++ "\n") := by
  have ha : Accepted brimWorkplace ["schema"] ⟨Log.warning, ⟨true⟩⟩ (.schema {} .text none) := by
    have hr : read programParameters false ["schema"] = .ok { rest := ["schema"] } := by decide
    have hs : Session.start brimWorkplace { rest := ["schema"] } =
        .ok ⟨Log.warning, ⟨true⟩⟩ := rfl
    have ht : Command.schema.read brimWorkplace.tree [] = .ok (some (.schema {} .text none)) := by
      decide
    exact .intro hr rfl rfl rfl hs ht
  obtain ⟨-, -, hx⟩ :=
    notices_are_logged brimWorkplace_load brimWorkplace_resolve brim_schema
  obtain ⟨-, -, he, -⟩ := hx _ _ _ _ _ _ ha rfl rfl rfl rfl
  have hc : (run brimWorkplace ["schema"]).exitCode = .success := by decide +kernel
  have hk : ((Task.schema {} .text none).carryOut brimWorkplace ⟨true⟩).warnings =
      [⟨Log.warning, "confql.toml: unknown settings key 'hue'"⟩,
        ⟨Log.warning, "value exceeds GraphQL Int32 range, using String type instead " ++
          "(name=level, type=int)"⟩] := by decide +kernel
  have hr := (he hc).2
  rw [hk] at hr
  exact ⟨ha, _, hk, hr⟩

end RecordSchema.CommandLine
