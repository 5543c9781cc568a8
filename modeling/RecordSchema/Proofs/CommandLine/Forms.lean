import RecordSchema.Proofs.CommandLine.Verbosity
import RecordSchema.Proofs.FileTree

/-! # The same call in other forms

The format and the output file of a command have nothing to do with its other options: they are
checked and used apart from them. So what a call does is told by the flags in front of the command,
by the options that are left without a format and an output file, and by these two.
-/
namespace RecordSchema.CommandLine
variable {w : Surroundings} {tree : FileTree} {args rest : List String} {r : Reading}
  {c : Command} {f : OutputFormat} {out : Option String}
  {flags : List (Parameter × Option String)} {common : Except UsageError Reading}

/-! ## Checks in order -/

section Checks
variable {α ε : Type} {check check' : α → Except ε Unit} {xs : List α}

theorem forM_cons (check : α → Except ε Unit) (x : α) (xs : List α) :
    (x :: xs).forM check = check x >>= fun _ => xs.forM check := rfl

theorem forM_congr (h : ∀ x ∈ xs, check x = check' x) : xs.forM check = xs.forM check' := by
  induction xs with
  | nil => rfl
  | cons x xs ih =>
    obtain ⟨hx, hxs⟩ := List.forall_mem_cons.mp h
    rw [forM_cons, forM_cons, hx, ih hxs]

/-- A check that passes may be left out. -/
theorem forM_filter {keep : α → Bool} (h : ∀ x ∈ xs, keep x = false → check x = .ok ()) :
    (xs.filter keep).forM check = xs.forM check := by
  induction xs with
  | nil => rfl
  | cons x xs ih =>
    obtain ⟨hx, hxs⟩ := List.forall_mem_cons.mp h
    cases hk : keep x with
    | true => rw [List.filter_cons_of_pos hk, forM_cons, forM_cons, ih hxs]
    | false =>
      rw [List.filter_cons_of_neg (by simp [hk]), forM_cons, hx hk, ok_bind, ih hxs]

/-- Nothing is gained by a second check. -/
theorem forM_eraseDups [BEq α] [LawfulBEq α] (check : α → Except ε Unit) (xs : List α) :
    xs.eraseDups.forM check = xs.forM check := by
  match xs with
  | [] => rfl
  | x :: xs =>
    rw [List.eraseDups_cons, forM_cons, forM_eraseDups check (xs.filter fun y => !y == x), forM_cons]
    cases hx : check x with
    | error e => rfl
    | ok u =>
      have hs : ∀ y ∈ xs, (!y == x) = false → check y = .ok () := by
        intro y _ hy
        obtain rfl : y = x := by simpa using hy
        exact hx
      rw [ok_bind, ok_bind, forM_filter hs]
termination_by xs.length
decreasing_by exact Nat.lt_succ_of_le (List.length_filter_le _ _)

end Checks

/-! ## What is left without a format and an output file -/

/-- A parameter that says neither how nor where to put a result. -/
def Parameter.isShared (p : Parameter) : Bool := p != .format && p != .out

/-- What is given besides a format and an output file. -/
def Reading.shared (r : Reading) : Reading :=
  { r with given := r.given.filter fun g => g.1.isShared }

theorem shared_has {p : Parameter} (hp : p.isShared) (r : Reading) : r.shared.has p = r.has p := by
  rw [Reading.has, Reading.has, Reading.shared, List.any_filter]
  congr 1
  funext g
  cases hg : g.1 == p with
  | false => rw [Bool.and_false]
  | true => rw [beq_iff_eq.mp hg, hp, Bool.true_and]

theorem shared_values {p : Parameter} (hp : p.isShared) (r : Reading) :
    r.shared.values p = r.values p := by
  rw [Reading.values, Reading.values, Reading.shared, List.filterMap_filter]
  refine List.filterMap_congr fun g _ => ?_
  by_cases hg : g.1 = p
  · rw [hg, if_pos hp]
  · simp [hg]

theorem shared_sources (r : Reading) : r.shared.sources = r.sources := by
  simp only [Reading.sources, Reading.value?, shared_values (p := .config) rfl,
    shared_has (p := .noConfig) rfl, shared_values (p := .record) rfl,
    shared_values (p := .tagKey) rfl, shared_values (p := .outputType) rfl,
    shared_values (p := .inputType) rfl]

theorem checkParameter_shared {p : Parameter} (hp : p.isShared) (tree : FileTree) (r : Reading) :
    checkParameter tree r.shared p = checkParameter tree r p := by
  cases p with
  | format | out => cases hp
  | config => rw [checkParameter, checkParameter, shared_values rfl]
  | _ => rfl

/-- The format that is asked for; text if none is. -/
def Reading.Formats (r : Reading) (f : OutputFormat) : Prop :=
  match r.value? .format with
  | none => f = .text
  | some s => OutputFormat.read s = .ok f

theorem Reading.Formats.format_eq (h : r.Formats f) : r.format = f := by
  unfold Formats at h
  unfold format
  cases hv : r.value? .format with
  | none => rw [hv] at h; exact h.symm
  | some s => rw [hv] at h; simp only [h]

theorem Reading.Formats.check (h : r.Formats f) (tree : FileTree) :
    checkParameter tree r .format = .ok () := by
  unfold Formats at h
  rw [checkParameter]
  cases hv : r.value? .format with
  | none => rfl
  | some s =>
    rw [hv] at h
    have hc : checkFormat s = .ok () := by simp only [checkFormat, h]
    rw [Option.toList_some, forM_cons, hc]
    rfl

/-- The checks of a command are those of its shared options, if its format and its output file pass
theirs. -/
theorem checks_shared (hf : r.Formats f) (ho : checkParameter tree r .out = .ok ()) :
    r.order.forM (checkParameter tree r) =
      r.shared.order.forM (checkParameter tree r.shared) := by
  have hs : r.shared.given.map (·.1) = (r.given.map (·.1)).filter Parameter.isShared := by
    rw [Reading.shared, List.filter_map]
    rfl
  have hpass : ∀ p ∈ r.given.map (·.1), p.isShared = false → checkParameter tree r p = .ok () := by
    intro p _ hp
    cases p with
    | format => exact hf.check tree
    | out => exact ho
    | _ => cases hp
  calc r.order.forM (checkParameter tree r)
      = (r.given.map (·.1)).forM (checkParameter tree r) := forM_eraseDups _ _
    _ = ((r.given.map (·.1)).filter Parameter.isShared).forM (checkParameter tree r) :=
        (forM_filter hpass).symm
    _ = ((r.given.map (·.1)).filter Parameter.isShared).forM (checkParameter tree r.shared) :=
        forM_congr fun p hp => (checkParameter_shared (List.mem_filter.mp hp).2 tree r).symm
    _ = r.shared.order.forM (checkParameter tree r.shared) := by
        rw [Reading.order, forM_eraseDups, hs]

/-- The settings that the shared options ask for; none if they ask for help. -/
def Reading.asked (tree : FileTree) (r : Reading) : Except UsageError (Option Sources) := do
  if r.has .help then return none
  r.order.forM (checkParameter tree r)
  if r.rest ≠ [] then .error (.extraArguments r.rest)
  else return some r.sources

def Command.task (c : Command) (src : Sources) (f : OutputFormat) (out : Option Path) : Task :=
  match c with
  | .version => .version f
  | .config => .config src f
  | .fields => .fields src f
  | .schema => .schema src f out

theorem task_eq (hf : r.Formats f) (c : Command) :
    r.task c = c.task r.shared.sources f ((r.value? .out).map .ofText) := by
  cases c <;> simp only [Reading.task, Command.task, hf.format_eq, shared_sources]

theorem command_read_shared (hr : read c.parameters true rest = .ok r) (hf : r.Formats f)
    (ho : checkParameter tree r .out = .ok ()) :
    c.read tree rest = (r.shared.asked tree).map
      (Option.map fun src => c.task src f ((r.value? .out).map .ofText)) := by
  rw [Command.read, hr, ok_bind, Reading.asked, shared_has rfl, checks_shared hf ho, task_eq hf]
  cases r.has .help with
  | true => rfl
  | false =>
    simp only [Bool.false_eq_true, if_false]
    cases r.shared.order.forM (checkParameter tree r.shared) with
    | error e => rfl
    | ok u =>
      rw [ok_bind, ok_bind]
      have hrest : r.shared.rest = r.rest := rfl
      rw [hrest]
      split_ifs <;> rfl

/-- A file that can be written passes its check. -/
theorem checkOutputFile_of_writable {s : String} (h : tree.Writable (.ofText s)) :
    checkOutputFile tree s = .ok () := by
  obtain ⟨place, hp, hd⟩ := h
  have hnode : tree.node? (.ofText s) = tree.nodeAt? place := by rw [FileTree.node?, hp]
  rw [checkOutputFile, FileTree.nodeOfText?, hnode]
  cases hn : tree.nodeAt? place with
  | none => split_ifs <;> rfl
  | some node =>
    cases node with
    | file c => simp only; split_ifs <;> rfl
    | directory => exact absurd hn hd.1
    | lockedFile => exact absurd hn hd.2

theorem check_out (hv : r.value? .out = out) (ho : ∀ s ∈ out, tree.Writable (.ofText s)) :
    checkParameter tree r .out = .ok () := by
  rw [checkParameter, hv]
  cases out with
  | none => rfl
  | some s =>
    rw [Option.toList_some, forM_cons, checkOutputFile_of_writable (ho s rfl)]
    rfl

/-! ## Calls -/

/-- A call of a command, by the flags in front of the command, what is read behind it besides a
format and an output file, and these two. -/
inductive Form (c : Command) : List String → List (Parameter × Option String) →
    Except UsageError Reading → OutputFormat → Option String → Prop
  | intro {args rest : List String} {flags : List (Parameter × Option String)} {f : OutputFormat}
      {out : Option String}
      (hr : CommandLine.read programParameters false args = .ok ⟨flags, c.name :: rest⟩)
      (hf : ∀ r, CommandLine.read c.parameters true rest = .ok r →
        r.Formats f ∧ r.value? .out = out) :
      Form c args flags ((CommandLine.read c.parameters true rest).map Reading.shared) f out

/-- Help is asked for in front of the command or behind it. -/
def AsksHelp (flags : List (Parameter × Option String)) (common : Except UsageError Reading) :
    Prop :=
  Reading.has ⟨flags, []⟩ .help = true ∨ ∃ r, common = .ok r ∧ r.has .help = true

/-- What a call does is told by its form. -/
theorem Form.run_eq (h : Form c args flags common f out)
    (ho : ∀ s ∈ out, w.tree.Writable (.ofText s)) :
    run w args =
      if Reading.has ⟨flags, []⟩ .help then helped w .program
      else inSession w ⟨flags, []⟩ fun session =>
        match common >>= Reading.asked w.tree with
        | .error e => misused w (.command c) e
        | .ok none => helped w (.command c)
        | .ok (some src) =>
          session.finish w ((c.task src f (out.map .ofText)).carryOut w session.console) := by
  cases h with
  | intro hr hf =>
    rename_i rest
    have hread : c.read w.tree rest =
        ((CommandLine.read c.parameters true rest).map Reading.shared >>=
          Reading.asked w.tree).map (Option.map fun src => c.task src f (out.map .ofText)) := by
      cases hc : CommandLine.read c.parameters true rest with
      | error e => rw [Command.read, hc]; rfl
      | ok r =>
        obtain ⟨hff, hv⟩ := hf r hc
        rw [command_read_shared hc hff (check_out hv ho), hv]
        rfl
    rw [run, hr]
    simp only [Command.ofName?_name]
    refine if_congr Iff.rfl rfl (congrArg (inSession w ⟨flags, []⟩) ?_)
    funext session
    rw [Session.run, hread]
    cases (CommandLine.read c.parameters true rest).map Reading.shared >>=
        Reading.asked w.tree with
    | error e => rfl
    | ok src? => cases src? <;> rfl

theorem asked_of_help (h : r.has .help = true) : r.asked tree = .ok none := by
  rw [Reading.asked, if_pos h]
  rfl

/-- Only a call for help asks for no settings. -/
theorem help_of_asked_none (h : r.asked tree = .ok none) : r.has .help = true := by
  cases hh : r.has .help with
  | true => rfl
  | false =>
    rw [Reading.asked, if_neg (by simp [hh])] at h
    cases hc : r.order.forM (checkParameter tree r) with
    | error e => rw [hc] at h; cases h
    | ok u =>
      rw [hc] at h
      by_cases hr : r.rest = []
      · rw [hr] at h
        cases h
      · rw [ok_bind, if_pos hr] at h
        cases h

/-- A task without a file fails at the same stage and by the same failure as any other that looks
at the fields of the same record. -/
theorem Task.Stops.of_sources {t t' : Task} {stage : Stage} {log : List Log.Record}
    {failure : Failure} {src : Sources} (h : t.Stops w stage log failure) (ho : t.out? = none)
    (hs : t.recordSources? = some src) (hs' : t'.recordSources? = some src) :
    t'.Stops w stage log failure := by
  have hsources : ∀ {t : Task}, t.recordSources? = some src → t.sources? = some src := by
    intro t ht
    cases t with
    | version | config => cases ht
    | fields | schema => exact ht
  cases h with
  | settings hsrc hl =>
    cases (hsources hs).symm.trans hsrc
    exact .settings (hsources hs') hl
  | record hsrc hl hr =>
    cases hs.symm.trans hsrc
    exact .record hs' hl hr
  | mapping hsrc hl hr hm =>
    cases hs.symm.trans hsrc
    exact .mapping hs' hl hr hm
  | writing => cases ho

/-- The tasks that look at the fields of a record all stop alike, or else there is a schema of it. -/
theorem stop_alike_or_schema (w : Surroundings) (src : Sources) :
    (∃ stage log failure, ∀ t : Task, t.recordSources? = some src → t.Stops w stage log failure) ∨
    ∃ settings o schema, (src.load w).result = .ok settings ∧
      (w.library.resolve settings.record).result = .ok o ∧
      (o.subject.schema settings.tagKey settings.views).result = .ok schema := by
  have hs : (Task.schema src .text none).sources? = some src := rfl
  rcases Task.stops_or_makes (w := w) hs with ⟨stage, log, failure, h⟩ | ⟨_, _, _, h, -⟩
  · exact .inl ⟨stage, log, failure, fun t ht => h.of_sources rfl rfl ht⟩
  · cases h with
    | schema hl ho hm => exact .inr ⟨_, _, _, hl, ho, hm⟩

/-- A command that looks at the fields of a record. -/
def Command.OfRecord (c : Command) : Prop := c = .fields ∨ c = .schema

theorem Command.OfRecord.recordSources? (hc : c.OfRecord) (src : Sources) (f : OutputFormat)
    (out : Option Path) : (c.task src f out).recordSources? = some src := by
  rcases hc with rfl | rfl <;> rfl

/-- How calls of such commands with the same flags and the same options end. Only where there is a
schema does the outcome depend on more than the command. -/
inductive Ending (w : Surroundings) (flags : List (Parameter × Option String))
    (common : Except UsageError Reading) :
    (Command → OutputFormat → Option String → Outcome) → Prop
  | help (scope : Command → Scope) (hh : AsksHelp flags common) :
      Ending w flags common fun c _ _ => helped w (scope c)
  | misuse (e : UsageError) : Ending w flags common fun c _ _ => misused w (.command c) e
  | failure (logged : String) (failure : Failure) :
      Ending w flags common fun _ _ _ => failed w logged failure
  | schema {session : Session} {src : Sources} {settings : Settings} {o : Library.Object}
      {schema : Schema} (hh : ¬ AsksHelp flags common)
      (hs : Session.start w ⟨flags, []⟩ = .ok session)
      (ha : common >>= Reading.asked w.tree = .ok (some src))
      (hl : (src.load w).result = .ok settings)
      (ho : (w.library.resolve settings.record).result = .ok o)
      (hm : (o.subject.schema settings.tagKey settings.views).result = .ok schema) :
      Ending w flags common fun c f out =>
        session.finish w ((c.task src f (out.map .ofText)).carryOut w session.console)

theorem exists_ending (w : Surroundings) (flags : List (Parameter × Option String))
    (common : Except UsageError Reading) :
    ∃ ending, Ending w flags common ending ∧ ∀ {c args f out}, c.OfRecord →
      Form c args flags common f out → (∀ s ∈ out, w.tree.Writable (.ofText s)) →
        run w args = ending c f out := by
  cases hflags : Reading.has ⟨flags, []⟩ .help with
  | true =>
    refine ⟨_, .help (fun _ => .program) (.inl hflags), fun _ h ho => ?_⟩
    rw [h.run_eq ho, if_pos hflags]
  | false =>
    have hrun : ∀ {c args f out}, Form c args flags common f out →
        (∀ s ∈ out, w.tree.Writable (.ofText s)) → run w args = _ := fun h ho =>
      (h.run_eq ho).trans (if_neg (by simp [hflags]))
    cases hs : Session.start w ⟨flags, []⟩ with
    | error failure =>
      refine ⟨_, .failure "" failure, fun _ h ho => ?_⟩
      rw [hrun h ho, inSession, hs]
    | ok session =>
      have hin : ∀ {c args f out}, Form c args flags common f out →
          (∀ s ∈ out, w.tree.Writable (.ofText s)) → run w args = _ := fun h ho =>
        (hrun h ho).trans (inSession_of_start hs _)
      have hhelp : AsksHelp flags common → common >>= Reading.asked w.tree = .ok none := by
        rintro (hh | ⟨r, rfl, hr⟩)
        · rw [hflags] at hh
          cases hh
        · exact asked_of_help hr
      cases hc : common >>= Reading.asked w.tree with
      | error e =>
        refine ⟨_, .misuse e, fun _ h ho => ?_⟩
        rw [hin h ho, hc]
      | ok src? =>
        cases src? with
        | none =>
          obtain ⟨r, hr, ha⟩ := bind_eq_ok_iff.mp hc
          refine ⟨_, .help .command (.inr ⟨r, hr, help_of_asked_none ha⟩), fun _ h ho => ?_⟩
          rw [hin h ho, hc]
        | some src =>
          have hno : ¬ AsksHelp flags common := by
            intro hh
            rw [hhelp hh] at hc
            cases hc
          rcases stop_alike_or_schema w src with
            ⟨stage, log, failure, hst⟩ | ⟨settings, o, schema, hl, hr, hm⟩
          · refine ⟨_, .failure (session.logText log) failure, fun hrec h ho => ?_⟩
            rw [hin h ho, hc]
            simp only [(hst _ (hrec.recordSources? src _ _)).carryOut_eq]
            rfl
          · refine ⟨_, .schema hno hs hc hl hr hm, fun _ h ho => ?_⟩
            rw [hin h ho, hc]

/-! ## Command lines -/

/-- A call of a command consists of flags, the name of the command and its arguments. The flags are
read alike whatever command follows with whatever arguments. -/
theorem exists_front {opts : List String}
    (h : read programParameters false args = .ok ⟨flags, c.name :: opts⟩) :
    ∃ front, args = front ++ c.name :: opts ∧ ∀ (c : Command) (rest : List String),
      read programParameters false (front ++ c.name :: rest) = .ok ⟨flags, c.name :: rest⟩ := by
  have hname : ∀ (c : Command) (rest : List String),
      read programParameters false (c.name :: rest) = .ok ⟨[], c.name :: rest⟩ := by
    intro c rest
    cases c <;> rfl
  induction args generalizing flags with
  | nil => cases h
  | cons a args ih =>
    by_cases hd : a = "--"
    · subst hd
      rw [read, if_pos rfl] at h
      cases h
      exact ⟨["--"], rfl, fun c rest => rfl⟩
    · by_cases hm : isMention a = true
      · rcases read_mention_cons hm hd with ⟨e, he⟩ | ⟨more, hr⟩
        · rw [he] at h
          cases h
        · cases hargs : read programParameters false args with
          | error e => rw [hr, hargs] at h; cases h
          | ok r =>
            obtain ⟨given, rest⟩ := r
            rw [hr, hargs] at h
            cases h
            obtain ⟨front, rfl, hf⟩ := ih hargs
            exact ⟨a :: front, rfl, fun c rest => by rw [List.cons_append, hr, hf]; rfl⟩
      · rw [read, if_neg hd, if_neg hm, if_neg (by simp)] at h
        cases h
        exact ⟨[], rfl, hname⟩

/-- The options for a format and an output file. -/
def formOptions (f : OutputFormat) (out : Option String) : List String :=
  ["--format", f.name] ++ (out.toList.flatMap fun s => ["--out", s])

/-- Nothing is said of a format or an output file. -/
def Reading.Formless (r : Reading) : Prop := r.values .format = [] ∧ r.values .out = []

theorem values_addGiven (more : List (Parameter × Option String)) (r : Reading) (p : Parameter) :
    (r.addGiven more).values p = Reading.values ⟨more, []⟩ p ++ r.values p := by
  simp only [Reading.values, Reading.addGiven, List.filterMap_append]

theorem shared_addGiven {more : List (Parameter × Option String)}
    (h : ∀ g ∈ more, g.1.isShared = false) (r : Reading) : (r.addGiven more).shared = r.shared := by
  have hn : more.filter (fun g => g.1.isShared) = [] :=
    List.filter_eq_nil_iff.mpr fun g hg => by simp [h g hg]
  simp only [Reading.shared, Reading.addGiven, List.filter_append, hn, List.nil_append]

/-- A call has the form that is said in front of options which say nothing of it. -/
theorem form_of_addGiven {more : List (Parameter × Option String)} {opts : List String}
    (hr : read programParameters false args = .ok ⟨flags, c.name :: rest⟩)
    (hm : read c.parameters true rest = (read c.parameters true opts).map (Reading.addGiven more))
    (hs : ∀ g ∈ more, g.1.isShared = false)
    (hn : ∀ r, read c.parameters true opts = .ok r → r.Formless)
    (hf : Reading.Formats ⟨more, []⟩ f) (ho : Reading.value? ⟨more, []⟩ .out = out) :
    Form c args flags ((read c.parameters true opts).map Reading.shared) f out := by
  have hc : (read c.parameters true opts).map Reading.shared =
      (read c.parameters true rest).map Reading.shared := by
    rw [hm, map_map]
    simp only [shared_addGiven hs]
  rw [hc]
  refine .intro hr fun r' hr' => ?_
  rw [hm] at hr'
  cases hopts : read c.parameters true opts with
  | error e => rw [hopts] at hr'; cases hr'
  | ok r =>
    rw [hopts] at hr'
    cases hr'
    obtain ⟨hfm, hout⟩ := hn r hopts
    have hv : ∀ p, r.values p = [] → (r.addGiven more).value? p = Reading.value? ⟨more, []⟩ p := by
      intro p hp
      rw [Reading.value?, values_addGiven, hp, List.append_nil, Reading.value?]
    exact ⟨by rwa [Reading.Formats, hv _ hfm], (hv _ hout).trans ho⟩

theorem read_format (c : Command) (f : OutputFormat) (rest : List String) :
    read c.parameters true ("--format" :: f.name :: rest) =
      (read c.parameters true rest).map (Reading.addGiven [(.format, some f.name)]) := by
  cases c <;> rfl

theorem read_out (s : String) (rest : List String) :
    read Command.schema.parameters true ("--out" :: s :: rest) =
      (read Command.schema.parameters true rest).map (Reading.addGiven [(.out, some s)]) := rfl

theorem outputFormat_read_name (f : OutputFormat) : OutputFormat.read f.name = .ok f := by
  cases f <;> decide

section Insertion
variable {front opts : List String}
  (hr : ∀ rest, read programParameters false (front ++ c.name :: rest) =
    .ok ⟨flags, c.name :: rest⟩)
  (hn : ∀ r, read c.parameters true opts = .ok r → r.Formless)
include hr hn

theorem form_default :
    Form c (front ++ c.name :: opts) flags ((read c.parameters true opts).map Reading.shared)
      .text none := by
  have hm : read c.parameters true opts = (read c.parameters true opts).map (Reading.addGiven []) := by
    cases read c.parameters true opts <;> rfl
  exact form_of_addGiven (hr _) hm (by simp) hn rfl rfl

theorem form_format (f : OutputFormat) :
    Form c (front ++ c.name :: (formOptions f none ++ opts)) flags
      ((read c.parameters true opts).map Reading.shared) f none :=
  form_of_addGiven (hr _) (read_format c f opts) (by simp [Parameter.isShared]) hn
    (outputFormat_read_name f) rfl

theorem form_out (hc : c = .schema) (f : OutputFormat) (s : String) :
    Form c (front ++ c.name :: (formOptions f (some s) ++ opts)) flags
      ((read c.parameters true opts).map Reading.shared) f (some s) := by
  have hm : read c.parameters true (formOptions f (some s) ++ opts) =
      (read c.parameters true opts).map
        (Reading.addGiven [(.format, some f.name), (.out, some s)]) := by
    subst hc
    show read _ true ("--format" :: f.name :: "--out" :: s :: opts) = _
    rw [read_format, read_out, map_map]
    rfl
  exact form_of_addGiven (hr _) hm (by simp [Parameter.isShared]) hn (outputFormat_read_name f) rfl

end Insertion

end RecordSchema.CommandLine
