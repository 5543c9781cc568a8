import RecordSchema.Proofs.CommandLine.Formats
import RecordSchema.Proofs.Schema.Meaning

/-! # The field table and the schema

The table of the fields and the schema are made from the same mapped fields, by tasks that go
through the same stages: where one of them fails, so does the other, and where they succeed, every
row of the table is a line in both blocks of the schema.
-/
namespace RecordSchema.CommandLine
variable {w : Surroundings} {args args' : List String} {flags : List (Parameter × Option String)}
  {common : Except UsageError Reading} {f f' : OutputFormat} {ps qs : List Parameter}
  {ds : List Descriptor}

/-! ## Options that both commands have -/

theorem named?_append {name : String} {p : Parameter} (h : named? ps name = some p)
    (qs : List Parameter) : named? (ps ++ qs) name = some p := by
  rw [named?, List.find?_append, ← named?, h]
  rfl

theorem readSwitches_append {cs : List Char} {given : List (Parameter × Option String)}
    (h : readSwitches ps cs = .ok given) (qs : List Parameter) :
    readSwitches (ps ++ qs) cs = .ok given := by
  induction cs generalizing given with
  | nil => exact h
  | cons c cs ih =>
    rw [readSwitches] at h ⊢
    cases hn : named? ps (String.ofList ['-', c]) with
    | none => simp only [hn] at h; cases h
    | some p =>
      simp only [hn] at h
      simp only [named?_append hn]
      cases hr : readSwitches ps cs with
      | error e => rw [hr] at h; cases h
      | ok more => rw [ih hr, ← hr, h]

/-- All that can go wrong with switches is that there is none of that name. -/
theorem readSwitches_error {cs : List Char} {e : UsageError} (h : readSwitches ps cs = .error e) :
    ∃ name similar, e = .noSuchOption name similar := by
  induction cs with
  | nil => cases h
  | cons c cs ih =>
    rw [readSwitches] at h
    cases hn : named? ps (String.ofList ['-', c]) with
    | none =>
      simp only [hn] at h
      cases h
      exact ⟨_, _, rfl⟩
    | some p =>
      simp only [hn] at h
      exact ih (map_eq_error_iff.mp h)

/-- No option is missing in what has been read. -/
def Known {α : Type} (x : Except UsageError α) : Prop :=
  ∀ name similar, x ≠ .error (.noSuchOption name similar)

/-- Further parameters change nothing for arguments that name none of them. -/
theorem readMention_append {arg : String} (h : Known (readMention ps arg)) (qs : List Parameter) :
    readMention (ps ++ qs) arg = readMention ps arg := by
  unfold readMention at h ⊢
  split_ifs at h ⊢
  · unfold readLong at h ⊢
    cases hn : named? ps (splitValue arg).1 with
    | none => simp only [hn] at h; exact absurd rfl (h _ _)
    | some p => simp only [hn, named?_append hn]
  · cases hr : readSwitches ps (arg.toList.drop 1) with
    | ok given => rw [readSwitches_append hr]
    | error e =>
      obtain ⟨name, similar, rfl⟩ := readSwitches_error hr
      rw [hr] at h
      exact absurd rfl (h name similar)

theorem Known.of_map {g : Reading → Reading} {x : Except UsageError Reading}
    (h : Known (g <$> x)) : Known x := by
  intro name similar hx
  exact h name similar (by rw [hx]; rfl)

theorem read_append {mixed : Bool} (h : Known (read ps mixed args)) (qs : List Parameter) :
    read (ps ++ qs) mixed args = read ps mixed args := by
  fun_induction read ps mixed args with
  | case1 => rw [read]
  | case2 args => rw [read, if_pos rfl]
  | case3 arg args hd hm e he =>
    have hk : Known (readMention ps arg) := he ▸ fun name similar hx => h name similar (by cases hx; rfl)
    rw [read, if_neg hd, if_pos hm, readMention_append hk, he]
  | case4 arg args hd hm more he ih =>
    have hk : Known (readMention ps arg) := he ▸ fun _ _ hx => by cases hx
    rw [read, if_neg hd, if_pos hm, readMention_append hk, he]
    simp only [ih h.of_map]
  | case5 arg hd hm p name he =>
    have hk : Known (readMention ps arg) := he ▸ fun _ _ hx => by cases hx
    rw [read, if_neg hd, if_pos hm, readMention_append hk, he]
  | case6 arg hd hm p name he v args ih =>
    have hk : Known (readMention ps arg) := he ▸ fun _ _ hx => by cases hx
    rw [read, if_neg hd, if_pos hm, readMention_append hk, he]
    simp only [ih h.of_map]
  | case7 arg args hd hm hmixed ih =>
    rw [read, if_neg hd, if_neg hm, if_pos hmixed, ih h.of_map]
  | case8 arg args hd hm hmixed => rw [read, if_neg hd, if_neg hm, if_neg hmixed]

/-- What an argument mentions are parameters that may be given. -/
def Mention.From (ps : List Parameter) : Mention → Prop
  | .given more => ∀ g ∈ more, g.1 ∈ ps
  | .awaits p _ => p ∈ ps

theorem readSwitches_mem {cs : List Char} {more : List (Parameter × Option String)}
    (h : readSwitches ps cs = .ok more) : ∀ g ∈ more, g.1 ∈ ps := by
  induction cs generalizing more with
  | nil => cases h; simp
  | cons c cs ih =>
    rw [readSwitches] at h
    cases hn : named? ps (String.ofList ['-', c]) with
    | none => simp only [hn] at h; cases h
    | some p =>
      simp only [hn] at h
      cases hr : readSwitches ps cs with
      | error e => rw [hr] at h; cases h
      | ok given =>
        rw [hr] at h
        cases h
        exact List.forall_mem_cons.mpr ⟨List.mem_of_find?_eq_some hn, ih hr⟩

theorem readMention_from {arg : String} {m : Mention} (h : readMention ps arg = .ok m) :
    m.From ps := by
  unfold readMention at h
  split_ifs at h
  · unfold readLong at h
    cases hn : named? ps (splitValue arg).1 with
    | none => simp only [hn] at h; cases h
    | some p =>
      have hp := List.mem_of_find?_eq_some hn
      simp only [hn] at h
      cases hv : (splitValue arg).2 <;> cases ht : p.takesValue <;>
        (simp only [hv, ht] at h; cases h) <;> simpa [Mention.From] using hp
  · cases hr : readSwitches ps (arg.toList.drop 1) with
    | error e => rw [hr] at h; cases h
    | ok more =>
      rw [hr] at h
      cases h
      exact readSwitches_mem hr

theorem read_mem {mixed : Bool} {r : Reading} (h : read ps mixed args = .ok r) :
    ∀ g ∈ r.given, g.1 ∈ ps := by
  have hadd : ∀ {more : List (Parameter × Option String)} {r : Reading}, (∀ g ∈ more, g.1 ∈ ps) →
      (∀ g ∈ r.given, g.1 ∈ ps) → ∀ g ∈ (r.addGiven more).given, g.1 ∈ ps :=
    fun hmore hr g hg => (List.mem_append.mp hg).elim (hmore g) (hr g)
  fun_induction read ps mixed args generalizing r with
  | case1 | case2 | case8 =>
    cases h
    simp
  | case3 | case5 => cases h
  | case4 arg args hd hm more he ih =>
    obtain ⟨r', hr', rfl⟩ := map_eq_ok_iff.mp h
    exact hadd (readMention_from he) (ih hr')
  | case6 arg hd hm p name he v args ih =>
    obtain ⟨r', hr', rfl⟩ := map_eq_ok_iff.mp h
    exact hadd (List.forall_mem_singleton.mpr (readMention_from he)) (ih hr')
  | case7 arg args hd hm hmixed ih =>
    obtain ⟨r', hr', rfl⟩ := map_eq_ok_iff.mp h
    have hr := ih hr'
    exact hr

/-- Options of the settings say nothing of a form and ask for no help. -/
theorem formless_of_settings {opts : List String} {r : Reading}
    (h : read Command.settingsParameters true opts = .ok r) : r.Formless ∧ r.has .help = false := by
  have hvalues : ∀ p, p ∉ Command.settingsParameters → r.values p = [] := by
    intro p hp
    refine List.filterMap_eq_nil_iff.mpr fun g hg => if_neg ?_
    rintro rfl
    exact hp (read_mem h g hg)
  refine ⟨⟨hvalues _ (by decide), hvalues _ (by decide)⟩, ?_⟩
  rw [Reading.has, List.any_eq_false]
  intro g hg he
  have hp := read_mem h g hg
  rw [beq_iff_eq.mp he] at hp
  exact absurd hp (by decide)

/-- The calls of a command in all of its forms, for options of the settings. -/
theorem forms_of_settings {front opts : List String}
    (hr : ∀ (c : Command) (rest : List String),
      read programParameters false (front ++ c.name :: rest) = .ok ⟨flags, c.name :: rest⟩)
    (hk : Known (read Command.settingsParameters true opts)) (more : List Parameter)
    {c : Command} (hc : c.parameters = Command.settingsParameters ++ more) :
    let common := (read Command.settingsParameters true opts).map Reading.shared
    Form c (front ++ c.name :: opts) flags common .text none ∧
      ∀ f, Form c (front ++ c.name :: (formOptions f none ++ opts)) flags common f none := by
  have ho : read c.parameters true opts = read Command.settingsParameters true opts := by
    rw [hc, read_append hk]
  have hn : ∀ r, read c.parameters true opts = .ok r → r.Formless := fun r h =>
    (formless_of_settings (ho ▸ h)).1
  rw [← ho]
  exact ⟨form_default (hr c) hn, form_format (hr c) hn⟩

/-! ## Rows and lines -/

/-- The lines of the rows in a block whose types carry a mark. -/
def fieldLines (rows : List FieldRow) (mark : String) : String :=
  String.join (rows.map fun r => "\t" ++ r.externalName ++ ": " ++ r.type ++ mark ++ "\n")

/-- Two blocks with the same rows: what is read, where every field is present, and what is written.
-/
def rowBlocks (settings : Settings) (rows : List FieldRow) : String :=
  "type " ++ settings.outputType ++ " \x7b\n" ++ fieldLines rows "!" ++ "\x7d\n" ++ "\n" ++
    ("input " ++ settings.inputType ++ " \x7b\n" ++ fieldLines rows "" ++ "\x7d\n")

/-- What a row is in JSON, as far as the schema goes. -/
structure Shows (item : JsonValue) (row : FieldRow) : Prop where
  externalName : item.member? "graphql_name" = some (.text row.externalName)
  type : item.member? "graphql_type" = some (.text row.type)
  fallback : item.member? "fallback" = some (.bool row.fallback)

theorem shows_rowJson (r : FieldRow) : Shows (FieldTable.rowJson r) r := ⟨rfl, rfl, rfl⟩

/-- The row of a field that has been mapped. -/
def rowOf (d : Descriptor) : FieldRow := d.mapped.row

theorem rowBlocks_mapped (settings : Settings) (ds : List Descriptor) :
    RecordSchema.schemaText (ds.map Descriptor.mapped) settings.views =
      rowBlocks settings (ds.map rowOf) := by
  have hl : ∀ mark, fieldLines (ds.map rowOf) mark =
      String.join (ds.map fun d => d.writtenLine mark) := by
    intro mark
    rw [fieldLines, List.map_map]
    rfl
  rw [schemaText_mapped, Settings.views, List.map_cons, List.map_cons, List.map_nil,
    String.intercalate_cons_cons, String.intercalate_singleton, rowBlocks, hl, hl]
  rfl

/-- As many rows take text in place of a number as there are notices. -/
theorem countP_fallback (ds : List Descriptor) :
    (ds.map rowOf).countP (·.fallback) = (ds.filterMap Descriptor.remark?).length := by
  rw [List.countP_map, List.length_filterMap_eq_countP]
  rfl

/-- A row takes text in place of a number exactly if there is a notice about its field. -/
theorem fallback_iff {d : Descriptor} (h : d ∈ ds) : (rowOf d).fallback = true ↔
    ∃ notice ∈ ds.filterMap Descriptor.remark?, d.remark? = some notice := by
  constructor
  · intro hf
    obtain ⟨notice, hn⟩ := Option.isSome_iff_exists.mp hf
    exact ⟨notice, List.mem_filterMap.mpr ⟨d, h, hn⟩, hn⟩
  · rintro ⟨notice, -, hn⟩
    exact Option.isSome_iff_exists.mpr ⟨notice, hn⟩

/-! ## Both commands side by side -/

theorem mapped_of_schema {s : Subject} {tagKey : String} {views : List View} {schema : Schema}
    (h : (s.schema tagKey views).result = .ok schema) :
    ∃ ds, (s.descriptors tagKey).result = .ok ds ∧
      (s.mapped tagKey).result =
        .ok (ds.map Descriptor.mapped, ds.filterMap Descriptor.remark?) ∧
      schema.text = RecordSchema.schemaText (ds.map Descriptor.mapped) views ∧
      schema.notices = ds.filterMap Descriptor.remark? := by
  rw [schema_result] at h
  cases hm : (s.mapped tagKey).result with
  | error e => rw [hm] at h; cases h
  | ok p =>
    obtain ⟨ms, ns⟩ := p
    rw [hm] at h
    cases h
    obtain ⟨c, hints, ds, hc, hh, hd, -, -, rfl, rfl⟩ := mapped_eq_ok_iff.mp hm
    exact ⟨ds, descriptors_eq_ok_iff.mpr ⟨c, hints, hc, hh, hd⟩, rfl, rfl, rfl⟩

section Pair
variable (h : Form .fields args flags common f none) (h' : Form .schema args' flags common f' none)
  (hh : ¬ AsksHelp flags common)
include h h' hh

theorem commands_end_alike :
    (run w args).exitCode = (run w args').exitCode ∧
    ((run w args).exitCode ≠ .success → run w args = run w args' ∨
      ∃ e, run w args = misused w (.command .fields) e ∧
        run w args' = misused w (.command .schema) e) := by
  obtain ⟨ending, he, hrun⟩ := exists_ending w flags common
  rw [hrun (.inl rfl) h (by simp), hrun (.inr rfl) h' (by simp)]
  cases he with
  | help scope hn => exact absurd hn hh
  | misuse e => exact ⟨rfl, fun _ => .inr ⟨e, rfl, rfl⟩⟩
  | failure logged failure => exact ⟨rfl, fun _ => .inl rfl⟩
  | @schema session src settings o schema hn hs ha hl ho hm =>
    obtain ⟨ds, -, hms, -, -⟩ := mapped_of_schema hm
    have hf : (Task.fields src f).Makes w _ _ _ := .fields hl ho hms
    have hk : (Task.schema src f' none).Makes w _ _ _ := .schema hl ho hm
    simp only [Command.task, Option.map_none, hf.finish_eq rfl, hk.finish_eq rfl]
    exact ⟨trivial, fun hx => absurd rfl hx⟩

end Pair

/-- What the two commands put out for the same fields. -/
theorem table_of_success (h : Form .fields args flags common .json none)
    (h' : Form .schema args' flags common .text none) (hh : ¬ AsksHelp flags common)
    (hc : Reading.has ⟨flags, []⟩ .noColour = false) (hx : (run w args).exitCode = .success) :
    ∃ src settings o ds schema, common >>= Reading.asked w.tree = .ok (some src) ∧
      (src.load w).result = .ok settings ∧
      (w.library.resolve settings.record).result = .ok o ∧
      (o.subject.descriptors settings.tagKey).result = .ok ds ∧
      (o.subject.schema settings.tagKey settings.views).result = .ok schema ∧
      JsonValue.parse (run w args).output = some (FieldTable.json (ds.map rowOf)) ∧
      (run w args').output = rowBlocks settings (ds.map rowOf) ∧
      schema.notices = ds.filterMap Descriptor.remark? := by
  obtain ⟨ending, he, hrun⟩ := exists_ending w flags common
  rw [hrun (.inl rfl) h (by simp)] at hx ⊢
  rw [hrun (.inr rfl) h' (by simp)]
  cases he with
  | help scope hn => exact absurd hn hh
  | misuse e => exact absurd hx (misused_exitCode w _ e)
  | failure logged failure => exact absurd hx (failed_ne_success w _ _)
  | @schema session src settings o schema hn hs ha hl ho hm =>
    obtain ⟨ds, hds, hms, htext, hns⟩ := mapped_of_schema hm
    have hf : (Task.fields src .json).Makes w _ _ _ := .fields hl ho hms
    have hk : (Task.schema src .text none).Makes w _ _ _ := .schema hl ho hm
    simp only [Command.task, Option.map_none, hf.finish_eq rfl, hk.finish_eq rfl, start_put hs hc]
    refine ⟨src, settings, o, ds, schema, ha, hl, ho, hds, hm, ?_, ?_, hns⟩
    · simp only [fieldsText, List.map_map]
      exact parse_asLine_indented _
    · rw [schemaText, htext, rowBlocks_mapped]

/-- The field table and the schema, called with the same options of the settings, end with the same
exit code and fail with the same message: where the options cannot be read, it stands behind the
reminder how the command is called. Where they succeed, the rows are the field lines of both blocks,
and those that take text in place of a number are the fields with a notice. Any options that name
none but those of the settings can be given to both. -/
theorem fields_match_schema (w : Surroundings) :
    (∀ args args' flags common f f', Form .fields args flags common f none →
      Form .schema args' flags common f' none → ¬ AsksHelp flags common →
      (run w args).exitCode = (run w args').exitCode ∧
      ((run w args).exitCode ≠ .success → run w args = run w args' ∨
        ∃ e, run w args = misused w (.command .fields) e ∧
          run w args' = misused w (.command .schema) e)) ∧
    (∀ args args' flags common, Form .fields args flags common .json none →
      Form .schema args' flags common .text none → ¬ AsksHelp flags common →
      Reading.has ⟨flags, []⟩ .noColour = false → (run w args).exitCode = .success →
      ∃ src settings o ds schema, common >>= Reading.asked w.tree = .ok (some src) ∧
        (src.load w).result = .ok settings ∧
        (w.library.resolve settings.record).result = .ok o ∧
        (o.subject.descriptors settings.tagKey).result = .ok ds ∧
        (o.subject.schema settings.tagKey settings.views).result = .ok schema ∧
        (∃ items, JsonValue.parse (run w args).output = some (.array items) ∧
          List.Forall₂ Shows items (ds.map rowOf)) ∧
        (run w args').output = rowBlocks settings (ds.map rowOf) ∧
        (∀ d ∈ ds, (rowOf d).fallback = true ↔
          ∃ notice ∈ schema.notices, d.remark? = some notice) ∧
        (ds.map rowOf).countP (·.fallback) = schema.notices.length) ∧
    ∀ args flags opts,
      read programParameters false args = .ok ⟨flags, Command.fields.name :: opts⟩ →
      Known (read Command.settingsParameters true opts) →
      ∃ front, args = front ++ Command.fields.name :: opts ∧ ∀ c, c = .fields ∨ c = .schema →
        let common := (read Command.settingsParameters true opts).map Reading.shared
        Form c (front ++ c.name :: opts) flags common .text none ∧
        (∀ f, Form c (front ++ c.name :: (formOptions f none ++ opts)) flags common f none) ∧
        (AsksHelp flags common → Reading.has ⟨flags, []⟩ .help = true) := by
  refine ⟨fun args args' flags common f f' h h' hh => commands_end_alike h h' hh, ?_, ?_⟩
  · intro args args' flags common h h' hh hc hx
    obtain ⟨src, settings, o, ds, schema, ha, hl, ho, hds, hm, hp, hs, hns⟩ :=
      table_of_success h h' hh hc hx
    refine ⟨src, settings, o, ds, schema, ha, hl, ho, hds, hm, ⟨_, hp, ?_⟩, hs, ?_, ?_⟩
    · rw [List.forall₂_map_left_iff, List.forall₂_same]
      exact fun r _ => shows_rowJson r
    · rw [hns]
      exact fun d hd => fallback_iff hd
    · rw [hns, countP_fallback]
  · intro args flags opts h hk
    obtain ⟨front, rfl, hr⟩ := exists_front h
    have hhelp : AsksHelp flags ((read Command.settingsParameters true opts).map Reading.shared) →
        Reading.has ⟨flags, []⟩ .help = true := by
      rintro (hh | ⟨r, hread, hh⟩)
      · exact hh
      · cases ho : read Command.settingsParameters true opts with
        | error e => rw [ho] at hread; cases hread
        | ok r =>
          rw [ho] at hread
          cases hread
          rw [shared_has rfl, (formless_of_settings ho).2] at hh
          cases hh
    refine ⟨front, rfl, fun c hc => ?_⟩
    obtain ⟨htext, hform⟩ : Form c (front ++ c.name :: opts) flags
        ((read Command.settingsParameters true opts).map Reading.shared) .text none ∧ ∀ f,
          Form c (front ++ c.name :: (formOptions f none ++ opts)) flags
            ((read Command.settingsParameters true opts).map Reading.shared) f none := by
      rcases hc with rfl | rfl
      · exact forms_of_settings hr hk [.format, .help] rfl
      · exact forms_of_settings hr hk [.format, .out, .help] rfl
    exact ⟨htext, hform, hhelp⟩

/-- One row takes text in place of its number, and it is the one field with a notice. -/
theorem brimWorkplace_table :
    (run brimWorkplace ["fields", "--format", "json"]).exitCode = .success ∧
    (run brimWorkplace ["schema"]).exitCode = .success ∧
    ∃ rows items, JsonValue.parse (run brimWorkplace ["fields", "--format", "json"]).output =
        some (.array items) ∧ List.Forall₂ Shows items rows ∧
      (run brimWorkplace ["schema"]).output = rowBlocks brimSettings rows ∧
      rows.countP (·.fallback) = 1 := by
  obtain ⟨hends, htable, hforms⟩ := fields_match_schema brimWorkplace
  have hr : read programParameters false ["fields"] = .ok ⟨[], ["fields"]⟩ := by decide
  have ho : read Command.settingsParameters true [] = .ok {} := rfl
  obtain ⟨front, hfront, hform⟩ := hforms ["fields"] [] [] hr fun _ _ h => by
    rw [ho] at h
    cases h
  obtain rfl : front = [] := by
    cases front with
    | nil => rfl
    | cons a front => simp at hfront
  obtain ⟨-, hfields, -⟩ := hform .fields (.inl rfl)
  obtain ⟨hschema, -, hhelp⟩ := hform .schema (.inr rfl)
  have hh : ¬ AsksHelp [] ((read Command.settingsParameters true []).map Reading.shared) :=
    fun h => absurd (hhelp h) (by decide)
  have hx : (run brimWorkplace ["fields", "--format", "json"]).exitCode = .success := by
    decide +kernel
  obtain ⟨he, -⟩ := hends _ _ _ _ _ _ (hfields .json) hschema hh
  obtain ⟨src, settings, o, ds, schema, ha, hl, hres, -, hm, ⟨items, hp, hi⟩, hs, -, hcount⟩ :=
    htable _ _ _ _ (hfields .json) hschema hh rfl hx
  cases ha
  cases brimWorkplace_load.symm.trans hl
  cases brimWorkplace_resolve.symm.trans hres
  cases brim_schema.symm.trans hm
  exact ⟨hx, he ▸ hx, _, items, hp, hi, hs, hcount⟩

end RecordSchema.CommandLine
