import RecordSchema.Proofs.CommandLine.Stages
import RecordSchema.Proofs.Terminal.Cutting

/-! # Where the texts of the arguments go

Help pages are fixed texts. A report of misuse quotes what it mentions, except for a bad choice and
for superfluous arguments, and what a command is asked for has no texts but those of its arguments.
So arguments without escapes lead to no escapes.
-/
namespace RecordSchema.CommandLine
open Terminal (IsPlain isPlain_append isPlain_intercalate isPlain_literal isPlain_quoted)
open Text (isPlain_blanks isPlain_padded isPlain_fill isPlain_shorten)
variable {ps : List Parameter} {args : List String} {r : Reading} {tree : FileTree}

/-! ## Help pages -/

theorem isPlain_term (p : Parameter) : IsPlain p.term := by
  cases p <;> decide

theorem isPlain_description (p : Parameter) : IsPlain p.description := by
  cases p with
  | format => decide
  | _ => exact isPlain_literal rfl

theorem isPlain_path (s : Scope) : IsPlain s.path := by
  cases s with
  | program => exact isPlain_literal rfl
  | command c =>
    have hn : IsPlain c.name := by cases c <;> exact isPlain_literal rfl
    simp only [Scope.path, isPlain_append]
    exact ⟨⟨isPlain_literal rfl, isPlain_literal rfl⟩, hn⟩

theorem isPlain_usage (s : Scope) : IsPlain s.usage := by
  have hp := isPlain_path s
  unfold Scope.usage
  simp only [isPlain_append]
  refine ⟨⟨isPlain_literal rfl, hp⟩, ?_⟩
  cases s <;> exact isPlain_literal rfl

theorem isPlain_entryLines (start : Nat) {entry : String × String} (ht : IsPlain entry.1)
    (hd : IsPlain entry.2) : ∀ l ∈ entryLines start entry, IsPlain l := by
  have hm : IsPlain (Text.blanks margin ++ entry.1) := isPlain_append.mpr ⟨isPlain_blanks _, ht⟩
  have hf := isPlain_fill hd (pageWidth - start)
  unfold entryLines
  cases hl : Text.fill (pageWidth - start) entry.2 with
  | nil => simpa using hm
  | cons l ls =>
    rw [hl] at hf
    obtain ⟨hl, hls⟩ := List.forall_mem_cons.mp hf
    refine List.forall_mem_cons.mpr ⟨isPlain_append.mpr ⟨isPlain_padded hm start, hl⟩, ?_⟩
    intro line hline
    obtain ⟨l, hm, rfl⟩ := List.mem_map.mp hline
    exact isPlain_append.mpr ⟨isPlain_blanks start, hls l hm⟩

theorem isPlain_listLines {heading : String} {entries : List (String × String)}
    (hh : IsPlain heading) (he : ∀ e ∈ entries, IsPlain e.1 ∧ IsPlain e.2) :
    ∀ l ∈ listLines heading entries, IsPlain l := by
  intro l hl
  rcases List.mem_append.mp hl with hl | hl
  · simp only [List.mem_cons, List.not_mem_nil, or_false] at hl
    rcases hl with rfl | rfl
    · exact isPlain_literal rfl
    · exact isPlain_append.mpr ⟨hh, isPlain_literal rfl⟩
  · obtain ⟨e, hm, hl⟩ := List.mem_flatMap.mp hl
    exact isPlain_entryLines _ (he e hm).1 (he e hm).2 l hl

theorem isPlain_helpText (s : Scope) : IsPlain (helpText s) := by
  have hd : IsPlain s.description := by
    cases s with
    | program => exact isPlain_literal rfl
    | command c => cases c <;> exact isPlain_literal rfl
  have ho : ∀ e ∈ parameterEntries s, IsPlain e.1 ∧ IsPlain e.2 := by
    intro e he
    obtain ⟨p, -, rfl⟩ := List.mem_map.mp he
    exact ⟨isPlain_term p, isPlain_description p⟩
  have hc : ∀ e ∈ commandEntries, IsPlain e.1 ∧ IsPlain e.2 := by
    intro e he
    obtain ⟨c, -, rfl⟩ := List.mem_map.mp he
    have hn : IsPlain c.name := by cases c <;> exact isPlain_literal rfl
    have hd : IsPlain c.description := by cases c <;> exact isPlain_literal rfl
    exact ⟨hn, isPlain_shorten hd _⟩
  refine isPlain_intercalate (isPlain_literal rfl) fun l hl => ?_
  rcases List.mem_append.mp hl with hl | hl
  · rcases List.mem_append.mp hl with hl | hl
    · simp only [List.mem_cons, List.not_mem_nil, or_false] at hl
      rcases hl with rfl | rfl | rfl
      · exact isPlain_usage s
      · exact isPlain_literal rfl
      · exact isPlain_append.mpr ⟨isPlain_blanks _, hd⟩
    · exact isPlain_listLines (isPlain_literal rfl) ho l hl
  · cases s with
    | program => exact isPlain_listLines (isPlain_literal rfl) hc l hl
    | command c => simp at hl

/-! ## Misuse -/

theorem isPlain_suggestion (names : List String) : IsPlain (suggestion names) := by
  unfold suggestion
  split
  · exact isPlain_literal rfl
  · simp only [isPlain_append]
    exact ⟨⟨isPlain_literal rfl, isPlain_quoted _⟩, isPlain_literal rfl⟩
  · simp only [isPlain_append]
    refine ⟨⟨isPlain_literal rfl, isPlain_intercalate (isPlain_literal rfl) fun s hs => ?_⟩,
      isPlain_literal rfl⟩
    obtain ⟨name, -, rfl⟩ := List.mem_map.mp hs
    exact isPlain_quoted name

/-- What an error mentions without quotes has no escape. -/
def UsageError.Unescaped : UsageError → Prop
  | .extraArguments args => ∀ a ∈ args, IsPlain a
  | .badChoice _ cause => IsPlain cause.message
  | _ => True

theorem UsageError.Unescaped.message {e : UsageError} (h : e.Unescaped) : IsPlain e.message := by
  unfold UsageError.message
  cases e with
  | noSuchOption name similar | noSuchCommand name similar =>
    simp only [isPlain_append]
    exact ⟨⟨⟨isPlain_literal rfl, isPlain_quoted name⟩, isPlain_literal rfl⟩,
      isPlain_suggestion similar⟩
  | needsArgument option | takesNoValue option =>
    simp only [isPlain_append]
    exact ⟨⟨isPlain_literal rfl, isPlain_quoted option⟩, isPlain_literal rfl⟩
  | extraArguments args =>
    have hs : IsPlain (if args.length = 1 then "" else "s") := by
      split_ifs <;> exact isPlain_literal rfl
    simp only [isPlain_append]
    exact ⟨⟨⟨⟨isPlain_literal rfl, hs⟩, isPlain_literal rfl⟩,
      isPlain_intercalate (isPlain_literal rfl) h⟩, isPlain_literal rfl⟩
  | badChoice option cause =>
    simp only [isPlain_append]
    exact ⟨⟨⟨isPlain_literal rfl, isPlain_quoted option⟩, isPlain_literal rfl⟩, h⟩
  | badFile option path cause =>
    have hc : IsPlain (cause.message path) := by
      unfold FileFault.message
      cases cause <;> simp only [isPlain_append] <;>
        exact ⟨⟨isPlain_literal rfl, isPlain_quoted path⟩, isPlain_literal rfl⟩
    simp only [isPlain_append]
    exact ⟨⟨⟨isPlain_literal rfl, isPlain_quoted option⟩, isPlain_literal rfl⟩, hc⟩

theorem UsageError.Unescaped.report {e : UsageError} (h : e.Unescaped) (s : Scope) :
    IsPlain (e.report s) := by
  have hm : IsPlain ("Error: " ++ e.message ++ "\n") := by
    simp only [isPlain_append]
    exact ⟨⟨isPlain_literal rfl, h.message⟩, isPlain_literal rfl⟩
  rw [UsageError.report, hm.plain_eq, isPlain_append]
  refine ⟨?_, hm⟩
  split_ifs
  · simp only [reminder, isPlain_append]
    exact ⟨⟨⟨isPlain_usage s, isPlain_literal rfl⟩, isPlain_path s⟩, isPlain_literal rfl⟩
  · exact isPlain_literal rfl

/-! ## Reading -/

/-- No value and no other argument of the reading has an escape. -/
structure Reading.Unescaped (r : Reading) : Prop where
  given : ∀ g ∈ r.given, ∀ v, g.2 = some v → IsPlain v
  rest : ∀ a ∈ r.rest, IsPlain a

theorem readSwitches_unescaped (ps : List Parameter) (cs : List Char) :
    (∀ more, readSwitches ps cs = .ok more → ∀ g ∈ more, g.2 = none) ∧
      ∀ e, readSwitches ps cs = .error e → e.Unescaped := by
  induction cs with
  | nil =>
    refine ⟨fun more h => ?_, fun e h => (by cases h)⟩
    cases h
    simp
  | cons c cs ih =>
    rw [readSwitches]
    cases named? ps (String.ofList ['-', c]) with
    | none =>
      refine ⟨fun more h => (by cases h), fun e h => ?_⟩
      cases h
      trivial
    | some p =>
      cases hs : readSwitches ps cs with
      | error e' =>
        refine ⟨fun more h => (by cases h), fun e h => ?_⟩
        cases h
        exact ih.2 _ hs
      | ok more' =>
        refine ⟨fun more h => ?_, fun e h => (by cases h)⟩
        cases h
        exact List.forall_mem_cons.mpr ⟨rfl, ih.1 _ hs⟩

theorem isPlain_splitValue {arg v : String} (h : IsPlain arg)
    (hv : (splitValue arg).2 = some v) : IsPlain v := by
  unfold splitValue at hv
  cases hc : Text.cutFirst? '=' arg with
  | none => rw [hc] at hv; cases hv
  | some p =>
    rw [hc] at hv
    cases hv
    exact Text.isPlain_of_cutFirst? h hc

theorem readLong_unescaped {arg : String} (h : IsPlain arg) :
    (∀ more, readLong ps arg = .ok (.given more) →
      ∀ g ∈ more, ∀ v, g.2 = some v → IsPlain v) ∧
      ∀ e, readLong ps arg = .error e → e.Unescaped := by
  unfold readLong
  cases hp : named? ps (splitValue arg).1 with
  | none =>
    simp only [hp]
    exact ⟨fun more h => (by cases h), fun e h => (by cases h; trivial)⟩
  | some p =>
    simp only [hp]
    cases hs : (splitValue arg).2 with
    | none =>
      cases p.takesValue with
      | true => exact ⟨fun more h => (by cases h), fun e h => (by cases h)⟩
      | false =>
        refine ⟨fun more h => ?_, fun e h => (by cases h)⟩
        cases h
        simp
    | some v =>
      cases p.takesValue with
      | true =>
        refine ⟨fun more hm => ?_, fun e h => (by cases h)⟩
        cases hm
        simpa using isPlain_splitValue h hs
      | false => exact ⟨fun more h => (by cases h), fun e h => (by cases h; trivial)⟩

theorem readMention_unescaped {arg : String} (h : IsPlain arg) :
    (∀ more, readMention ps arg = .ok (.given more) →
      ∀ g ∈ more, ∀ v, g.2 = some v → IsPlain v) ∧
      ∀ e, readMention ps arg = .error e → e.Unescaped := by
  unfold readMention
  split_ifs with hl
  · exact readLong_unescaped h
  · obtain ⟨hok, herr⟩ := readSwitches_unescaped ps (arg.toList.drop 1)
    cases hs : readSwitches ps (arg.toList.drop 1) with
    | error e' =>
      refine ⟨fun more h => (by cases h), fun e h => ?_⟩
      cases h
      exact herr _ hs
    | ok more' =>
      refine ⟨fun more h => ?_, fun e h => (by cases h)⟩
      cases h
      -- switches take no values
      intro g hg v hv
      rw [hok _ hs g hg] at hv
      cases hv

theorem Reading.Unescaped.addGiven (h : r.Unescaped) {more : List (Parameter × Option String)}
    (hm : ∀ g ∈ more, ∀ v, g.2 = some v → IsPlain v) : (r.addGiven more).Unescaped := by
  refine ⟨fun g hg => ?_, h.rest⟩
  rcases List.mem_append.mp hg with hg | hg
  · exact hm g hg
  · exact h.given g hg

/-- What every reading and every error of some arguments satisfies, as they are put together. -/
def ReadsUnescaped (x : Except UsageError Reading) : Prop :=
  (∀ r, x = .ok r → r.Unescaped) ∧ ∀ e, x = .error e → e.Unescaped

theorem readsUnescaped_ok (h : r.Unescaped) : ReadsUnescaped (.ok r) :=
  ⟨fun _ hr => (by cases hr; exact h), fun _ he => (by cases he)⟩

theorem readsUnescaped_error {e : UsageError} (h : e.Unescaped) : ReadsUnescaped (.error e) :=
  ⟨fun _ hr => (by cases hr), fun _ he => (by cases he; exact h)⟩

theorem ReadsUnescaped.map {x : Except UsageError Reading} (h : ReadsUnescaped x)
    {f : Reading → Reading} (hf : ∀ r, r.Unescaped → (f r).Unescaped) :
    ReadsUnescaped (f <$> x) := by
  cases x with
  | error e => exact readsUnescaped_error (h.2 e rfl)
  | ok r => exact readsUnescaped_ok (hf r (h.1 r rfl))

theorem read_unescaped (ps : List Parameter) (mixed : Bool) (ha : ∀ a ∈ args, IsPlain a) :
    ReadsUnescaped (read ps mixed args) := by
  -- by the cases of the reader, where a parameter may take the next argument as its value
  fun_induction read ps mixed args with
  | case1 => exact readsUnescaped_ok ⟨by simp, by simp⟩
  | case2 args => exact readsUnescaped_ok ⟨by simp, (List.forall_mem_cons.mp ha).2⟩
  | case3 arg args _ _ e he =>
    obtain ⟨harg, -⟩ := List.forall_mem_cons.mp ha
    exact readsUnescaped_error ((readMention_unescaped harg).2 e he)
  | case4 arg args _ _ more he ih =>
    obtain ⟨harg, hargs⟩ := List.forall_mem_cons.mp ha
    exact (ih hargs).map fun r hr => hr.addGiven ((readMention_unescaped harg).1 more he)
  | case5 arg _ _ p name he => exact readsUnescaped_error trivial
  | case6 arg _ _ p name he v args ih =>
    obtain ⟨hv, hargs⟩ := List.forall_mem_cons.mp (List.forall_mem_cons.mp ha).2
    exact (ih hargs).map fun r hr => hr.addGiven (by simpa using hv)
  | case7 arg args _ _ _ ih =>
    obtain ⟨harg, hargs⟩ := List.forall_mem_cons.mp ha
    refine (ih hargs).map fun r hr => ⟨hr.given, ?_⟩
    exact List.forall_mem_cons.mpr ⟨harg, hr.rest⟩
  | case8 arg args => exact readsUnescaped_ok ⟨by simp, ha⟩

theorem Reading.Unescaped.values (h : r.Unescaped) (p : Parameter) :
    ∀ v ∈ r.values p, IsPlain v := by
  intro v hv
  obtain ⟨g, hg, he⟩ := List.mem_filterMap.mp hv
  split_ifs at he
  exact h.given g hg v he

theorem Reading.Unescaped.value? (h : r.Unescaped) {p : Parameter} {v : String}
    (hv : r.value? p = some v) : IsPlain v :=
  h.values p v (List.mem_of_getLast? hv)

/-! ## What a command is asked for -/

/-- No path that the task was given has an escape. -/
structure Task.Unescaped (t : Task) : Prop where
  files : ∀ src, t.sources? = some src → ∀ p ∈ src.files, p.IsPlain
  out : ∀ p, t.out? = some p → p.IsPlain

theorem forM_error {α : Type} {f : α → Except UsageError Unit} {xs : List α} {e : UsageError}
    (h : xs.forM f = .error e) : ∃ x ∈ xs, f x = .error e := by
  induction xs with
  | nil => cases h
  | cons x xs ih =>
    have h : (f x >>= fun _ => xs.forM f) = .error e := h
    cases hx : f x with
    | error e' =>
      rw [hx] at h
      cases h
      exact ⟨x, List.mem_cons_self, hx⟩
    | ok u =>
      rw [hx] at h
      obtain ⟨y, hy, he⟩ := ih h
      exact ⟨y, List.mem_cons_of_mem x hy, he⟩

theorem outputFormat_read_error {s : String} {e : ChoiceError}
    (h : OutputFormat.read s = .error e) : e = .notListed s formatChoice.options := by
  unfold OutputFormat.read Choice.pick at h
  cases hp : formatChoice.options.find? fun o => Text.lower o == Text.lower s with
  | none =>
    rw [hp] at h
    cases h
    rfl
  | some name =>
    simp only [hp] at h
    cases ho : OutputFormat.ofName? name with
    | some f => rw [ho] at h; cases h
    | none => rw [ho] at h; cases h; rfl

theorem isPlain_notListed {s : String} (h : IsPlain s) :
    IsPlain (ChoiceError.notListed s formatChoice.options).message := by
  unfold ChoiceError.message
  simp only [isPlain_append]
  refine ⟨⟨⟨isPlain_literal rfl, h⟩, isPlain_literal rfl⟩,
    isPlain_intercalate (isPlain_literal rfl) ?_⟩
  decide

theorem checkParameter_unescaped (hr : r.Unescaped) {p : Parameter} {e : UsageError}
    (h : checkParameter tree r p = .error e) : e.Unescaped := by
  unfold checkParameter at h
  split at h
  · obtain ⟨s, -, hs⟩ := forM_error h
    unfold checkSettingsFile at hs
    split at hs <;> cases hs <;> trivial
  · obtain ⟨s, hm, hs⟩ := forM_error h
    have hp : IsPlain s := hr.value? (Option.mem_toList.mp hm)
    unfold checkFormat at hs
    cases ho : OutputFormat.read s with
    | ok f => rw [ho] at hs; cases hs
    | error cause =>
      rw [ho] at hs
      cases hs
      rw [outputFormat_read_error ho]
      exact isPlain_notListed hp
  · obtain ⟨s, -, hs⟩ := forM_error h
    unfold checkOutputFile at hs
    split at hs <;> cases hs <;> trivial
  · cases h

theorem task_unescaped (hr : r.Unescaped) (c : Command) : (r.task c).Unescaped := by
  have hf : ∀ p ∈ r.sources.files, p.IsPlain := by
    intro p hp
    obtain ⟨s, hs, rfl⟩ := List.mem_map.mp hp
    exact Path.isPlain_ofText (hr.values .config s hs)
  have ho : ∀ p, (r.value? .out).map Path.ofText = some p → p.IsPlain := by
    intro p hp
    obtain ⟨s, hs, rfl⟩ := Option.map_eq_some_iff.mp hp
    exact Path.isPlain_ofText (hr.value? hs)
  cases c with
  | version => exact ⟨fun src hs => (by cases hs), fun p hp => (by cases hp)⟩
  | config | fields => exact ⟨fun src hs => (by cases hs; exact hf), fun p hp => (by cases hp)⟩
  | schema => exact ⟨fun src hs => (by cases hs; exact hf), ho⟩

/-- What a command makes of arguments without escapes has none either. -/
theorem command_read_unescaped (tree : FileTree) (ha : ∀ a ∈ args, IsPlain a) (c : Command) :
    (∀ t, c.read tree args = .ok (some t) → t.Unescaped) ∧
      ∀ e, c.read tree args = .error e → e.Unescaped := by
  obtain ⟨hok, herr⟩ := read_unescaped c.parameters true ha
  unfold Command.read
  cases hr : read c.parameters true args with
  | error e =>
    refine ⟨fun t h => (by cases h), fun e' h => ?_⟩
    cases h
    exact herr e hr
  | ok r =>
    have hu := hok r hr
    rw [ok_bind]
    cases r.has .help with
    | true => exact ⟨fun t h => (by cases h), fun e h => (by cases h)⟩
    | false =>
      cases hc : r.order.forM (checkParameter tree r) with
      | error e =>
        refine ⟨fun t h => (by cases h), fun e' h => ?_⟩
        cases h
        obtain ⟨p, -, he⟩ := forM_error hc
        exact checkParameter_unescaped hu he
      | ok u =>
        rw [if_neg (by decide), ok_bind]
        by_cases hrest : r.rest = []
        · rw [if_neg (not_not.mpr hrest)]
          refine ⟨fun t h => ?_, fun e h => (by cases h)⟩
          cases h
          exact task_unescaped hu c
        · rw [if_pos hrest]
          refine ⟨fun t h => (by cases h), fun e h => ?_⟩
          cases h
          exact hu.rest

end RecordSchema.CommandLine
