import RecordSchema.Proofs.CommandLine.Forms
import RecordSchema.Proofs.JsonValue.RoundTrip
import RecordSchema.Proofs.Schema.Warnings

/-! # Formats and destinations of a schema

A schema is put out as text or as JSON, on the output or into a file. The JSON form holds the text
as it is, with the notices and their counts; the file holds what would be on the output. Whether
there is a schema at all is told by neither.
-/
namespace RecordSchema.CommandLine
variable {w : Surroundings} {args args' : List String} {flags : List (Parameter × Option String)}
  {common : Except UsageError Reading} {f : OutputFormat}

/-! ## The JSON form -/

/-- A report holds a schema text, the notices about it, and for each level how many of them have
it. -/
structure Reports (report : JsonValue) (text : String) (ns : List Notice) : Prop where
  schema : report.member? "schema" = some (.text text)
  diagnostics : report.member? "diagnostics" = some (.array (ns.map noticeJson))
  counts : report.member? "counts" =
    some (.object (Severity.all.map fun l => (l.name, .number (Notice.count l ns))))
  total : (Severity.all.map fun l => Notice.count l ns).sum = ns.length

theorem reports_schemaJson (settings : Settings) (schema : Schema) :
    Reports (schemaJson settings schema) schema.text (settings.notices ++ schema.notices) :=
  ⟨rfl, rfl, rfl, Notice.sum_count _⟩

/-- What is put out as JSON is read back. -/
theorem parse_asLine_indented (v : JsonValue) : JsonValue.parse (asLine v.indented) = some v :=
  JsonValue.parse_write (some 0) v (List.forall_mem_singleton.mpr rfl)

/-! ## Forms side by side -/

/-- With colour, a session puts out a text as it is. -/
theorem start_put {session : Session} (hs : Session.start w ⟨flags, []⟩ = .ok session)
    (hc : Reading.has ⟨flags, []⟩ .noColour = false) (text : String) :
    session.console.put text false = text := by
  obtain ⟨_, _, -, -, rfl⟩ := Session.start_eq_ok_iff.mp hs
  rw [hc]
  rfl

theorem misused_exitCode (w : Surroundings) (s : Scope) (e : UsageError) :
    (misused w s e).exitCode ≠ .success := by
  simp [misused]

section Pair
variable (h : Form .schema args flags common .json none)
  (h' : Form .schema args' flags common .text none)
  (hc : Reading.has ⟨flags, []⟩ .noColour = false)
include h h' hc

/-- The two formats end alike, and the JSON form reports on the text. -/
theorem formats_agree :
    (run w args).exitCode = (run w args').exitCode ∧
    (AsksHelp flags common ∨ (run w args).exitCode ≠ .success → run w args = run w args') ∧
    (¬ AsksHelp flags common → (run w args).exitCode = .success →
      ∃ src settings o ds report, common >>= Reading.asked w.tree = .ok (some src) ∧
        (src.load w).result = .ok settings ∧
        (w.library.resolve settings.record).result = .ok o ∧
        (o.subject.descriptors settings.tagKey).result = .ok ds ∧
        JsonValue.parse (run w args).output = some report ∧
        Reports report (run w args').output
          (settings.notices ++ (overflowing ds).map fun p => overflowNotice p.1 (toString p.2))) := by
  obtain ⟨ending, he, hrun⟩ := exists_ending w flags common
  rw [hrun (.inr rfl) h (by simp), hrun (.inr rfl) h' (by simp)]
  cases he with
  | help scope hh => exact ⟨rfl, fun _ => rfl, fun hn => absurd hh hn⟩
  | misuse e => exact ⟨rfl, fun _ => rfl, fun _ hx => absurd hx (misused_exitCode w _ e)⟩
  | failure logged failure =>
    exact ⟨rfl, fun _ => rfl, fun _ hx => absurd hx (failed_ne_success w _ _)⟩
  | @schema session src settings o schema hh hs ha hl ho hm =>
    have hk : ∀ f, (Task.schema src f none).Makes w _ _ _ := fun f => .schema hl ho hm
    obtain ⟨ds, hds, -, hns⟩ := schema_warnings hm
    simp only [Command.task, Option.map_none, (hk _).finish_eq rfl, start_put hs hc]
    refine ⟨trivial, fun hx => absurd rfl (hx.resolve_left hh), fun _ _ => ?_⟩
    refine ⟨src, settings, o, ds, schemaJson settings schema, ha, hl, ho, hds, ?_, ?_⟩
    · exact parse_asLine_indented _
    · rw [← hns]
      exact reports_schemaJson settings schema

end Pair

section Pair
variable {s : String} (h : Form .schema args flags common f none)
  (h' : Form .schema args' flags common f (some s))
  (hc : Reading.has ⟨flags, []⟩ .noColour = false) (hw : w.tree.Writable (.ofText s))
include h h' hc hw

/-- A file that can be written gets what would be put out. -/
theorem destinations_agree :
    (run w args').exitCode = (run w args).exitCode ∧
    (AsksHelp flags common → run w args' = run w args) ∧
    (¬ AsksHelp flags common → (run w args').output = "" ∧
      ((run w args).exitCode = .success →
        (run w args').tree.read (.ofText s) = .ok (.text (run w args).output)) ∧
      ((run w args).exitCode ≠ .success → run w args' = run w args)) := by
  have hw' : ∀ s' ∈ some s, w.tree.Writable (.ofText s') := by simpa using hw
  obtain ⟨ending, he, hrun⟩ := exists_ending w flags common
  rw [hrun (.inr rfl) h (by simp), hrun (.inr rfl) h' hw']
  cases he with
  | help scope hh => exact ⟨rfl, fun _ => rfl, fun hn => absurd hh hn⟩
  | misuse e =>
    exact ⟨rfl, fun _ => rfl, fun _ => ⟨rfl, fun hx => absurd hx (misused_exitCode w _ e),
      fun _ => rfl⟩⟩
  | failure logged failure =>
    exact ⟨rfl, fun _ => rfl, fun _ => ⟨(failed_output w _ _).1,
      fun hx => absurd hx (failed_ne_success w _ _), fun _ => rfl⟩⟩
  | @schema session src settings o schema hh hs ha hl ho hm =>
    have hk : ∀ out, (Task.schema src f out).Makes w _ _ _ := fun out => .schema hl ho hm
    obtain ⟨tree, hwr⟩ := (FileTree.exists_write_iff (schemaText settings schema f)).mpr hw
    obtain ⟨message, hout⟩ := (hk (some (.ofText s))).carryOut_written rfl hwr session.console
    simp only [Command.task, Option.map_none, Option.map_some, (hk none).finish_eq rfl]
    simp only [hout, Session.finish, start_put hs hc]
    exact ⟨trivial, fun hn => absurd hn hh, fun _ => ⟨rfl, fun _ => FileTree.read_of_write hwr,
      fun hx => absurd rfl hx⟩⟩

end Pair

/-- Whether a call for a schema succeeds is told neither by its format nor by its output file. The
JSON form is an object with what the text form puts out, the notices of the settings and then those
about numbers out of range, and their counts; an output file gets what would be put out. Only a call
for help shows its page in every form. Any call that says nothing of its form can be given each. -/
theorem schema_forms_agree (w : Surroundings) :
    (∀ args args' flags common, Form .schema args flags common .json none →
      Form .schema args' flags common .text none → Reading.has ⟨flags, []⟩ .noColour = false →
      (run w args).exitCode = (run w args').exitCode ∧
      (AsksHelp flags common ∨ (run w args).exitCode ≠ .success → run w args = run w args') ∧
      (¬ AsksHelp flags common → (run w args).exitCode = .success →
        ∃ src settings o ds report, common >>= Reading.asked w.tree = .ok (some src) ∧
          (src.load w).result = .ok settings ∧
          (w.library.resolve settings.record).result = .ok o ∧
          (o.subject.descriptors settings.tagKey).result = .ok ds ∧
          JsonValue.parse (run w args).output = some report ∧
          Reports report (run w args').output
            (settings.notices ++ (overflowing ds).map fun p => overflowNotice p.1 (toString p.2)))) ∧
    (∀ args args' flags common f s, Form .schema args flags common f none →
      Form .schema args' flags common f (some s) → Reading.has ⟨flags, []⟩ .noColour = false →
      w.tree.Writable (.ofText s) →
      (run w args').exitCode = (run w args).exitCode ∧
      (AsksHelp flags common → run w args' = run w args) ∧
      (¬ AsksHelp flags common → (run w args').output = "" ∧
        ((run w args).exitCode = .success →
          (run w args').tree.read (.ofText s) = .ok (.text (run w args).output)) ∧
        ((run w args).exitCode ≠ .success → run w args' = run w args))) ∧
    ∀ args flags opts,
      read programParameters false args = .ok ⟨flags, Command.schema.name :: opts⟩ →
      (∀ r, read Command.schema.parameters true opts = .ok r → r.Formless) →
      let common := (read Command.schema.parameters true opts).map Reading.shared
      Form .schema args flags common .text none ∧
      ∃ front, args = front ++ Command.schema.name :: opts ∧
        ∀ f out, Form .schema (front ++ Command.schema.name :: (formOptions f out ++ opts)) flags
          common f out := by
  refine ⟨fun args args' flags common h h' hc => formats_agree h h' hc,
    fun args args' flags common f s h h' hc hw => destinations_agree h h' hc hw,
    fun args flags opts h hn => ?_⟩
  obtain ⟨front, rfl, hr⟩ := exists_front h
  refine ⟨form_default (hr .schema) hn, front, rfl, fun f out => ?_⟩
  cases out with
  | none => exact form_format (hr .schema) hn f
  | some s => exact form_out (hr .schema) hn rfl f s

theorem brimWorkplace_forms :
    (run brimWorkplace ["schema", "--format", "json"]).exitCode = .success ∧
    (∃ report, JsonValue.parse (run brimWorkplace ["schema", "--format", "json"]).output =
        some report ∧
      report.member? "schema" = some (.text (run brimWorkplace ["schema"]).output)) ∧
    (run brimWorkplace ["schema", "--format", "json", "--out", "brim.json"]).output = "" ∧
    (run brimWorkplace ["schema", "--format", "json", "--out", "brim.json"]).tree.read
        (.ofText "brim.json") =
      .ok (.text (run brimWorkplace ["schema", "--format", "json"]).output) := by
  obtain ⟨hformats, hfiles, hforms⟩ := schema_forms_agree brimWorkplace
  have hr : read programParameters false ["schema"] = .ok ⟨[], ["schema"]⟩ := by decide
  have ho : read Command.schema.parameters true [] = .ok {} := rfl
  obtain ⟨htext, front, hfront, hform⟩ := hforms ["schema"] [] [] hr fun r h => by
    cases ho.symm.trans h
    exact ⟨rfl, rfl⟩
  obtain rfl : front = [] := by
    cases front with
    | nil => rfl
    | cons a front => simp at hfront
  have hjson := hform .json none
  have hfile := hform .json (some "brim.json")
  have hhelp : ¬ AsksHelp [] ((read Command.schema.parameters true []).map Reading.shared) := by
    rintro (h | ⟨r, h, hr⟩)
    · cases h
    · cases h
      cases hr
  have hx : (run brimWorkplace ["schema", "--format", "json"]).exitCode = .success := by
    decide +kernel
  have hw : brimWorkplace.tree.Writable (.ofText "brim.json") := ⟨["brim.json"], rfl, by decide⟩
  obtain ⟨-, -, hreport⟩ := hformats _ _ _ _ hjson htext rfl
  obtain ⟨src, settings, o, ds, report, ha, hl, hres, hds, hp, hk⟩ := hreport hhelp hx
  obtain ⟨-, -, hout⟩ := hfiles _ _ _ _ _ _ hjson hfile rfl hw
  obtain ⟨he, hread, -⟩ := hout hhelp
  exact ⟨hx, ⟨report, hp, hk.schema⟩, he, hread hx⟩

end RecordSchema.CommandLine
