import Mathlib.Algebra.Order.Group.Nat
import Mathlib.Data.Option.Basic
import RecordSchema.Proofs.Notice.Count

/-! # Logs of notices as histories

Several logs are filled in turn, from lists, from snapshots and from one another. Whatever the
order of the steps, a log holds what it was started from and all that was added to it since, a
snapshot keeps what its log held, and the counts of a log are those of its parts.
-/
namespace RecordSchema.Notice

/-- Where notices are taken from: a list, what a log holds at the time, or a snapshot. -/
inductive Supply where
  | list (ns : List Notice)
  | log (i : Nat)
  | snapshot (k : Nat)
deriving DecidableEq, Repr

/-- What is done with logs. They go by their numbers, in the order in which they were started. -/
inductive Step where
  | start (supply : Supply)
  | add (log : Nat) (n : Notice)
  | warn (log : Nat) (message : String)
  | extend (log : Nat) (supply : Supply)
  | freeze (log : Nat)
deriving DecidableEq, Repr

/-- What the logs hold, and the snapshots that were taken, each with the number of its log. -/
structure Logs where
  contents : List (List Notice) := []
  snapshots : List (Nat × List Notice) := []
deriving DecidableEq, Repr

namespace Logs

def supplied? (d : Logs) : Supply → Option (List Notice)
  | .list ns => some ns
  | .log i => d.contents[i]?
  | .snapshot k => d.snapshots[k]?.map Prod.snd

def change (d : Logs) (s : Step) (i : Nat) (f : List Notice → Logged Step (List Notice)) :
    Logged Step Logs :=
  match d.contents[i]? with
  | none => .fail s
  | some ns => do return { d with contents := d.contents.set i (← f ns) }

/-- A step that mentions a log or a snapshot that is not there fails as itself. So does one that
extends a log with itself: the log would grow as long as it is read. -/
def step (d : Logs) (s : Step) : Logged Step Logs :=
  match s with
  | .start supply =>
    match d.supplied? supply with
    | none => .fail s
    | some ns => return { d with contents := d.contents ++ [ns] }
  | .add i n => d.change s i fun ns => Notice.add ns n
  | .warn i message => d.change s i fun ns => Notice.add ns (.warning message)
  | .extend i supply =>
    if supply = .log i then .fail s
    else match d.supplied? supply with
      | none => .fail s
      | some more => d.change s i fun ns => Notice.addAll ns more
  | .freeze i =>
    match d.contents[i]? with
    | none => .fail s
    | some ns => return { d with snapshots := d.snapshots ++ [(i, ns)] }

end Logs

/-! ## What a step does -/

section Step
variable {d d' : Logs} {s : Step} {i : Nat} {ns more : List Notice}

/-- A step that mentions only what is there and extends no log with itself. -/
def Step.Fits (d : Logs) : Step → Prop
  | start supply => (d.supplied? supply).isSome
  | add i _ | warn i _ | freeze i => d.contents[i]?.isSome
  | extend i supply => supply ≠ .log i ∧ (d.supplied? supply).isSome ∧ d.contents[i]?.isSome

/-- What the step adds to a log. -/
def Step.adds (d : Logs) (i : Nat) : Step → List Notice
  | add j n => if i = j then [n] else []
  | warn j message => if i = j then [.warning message] else []
  | extend j supply => if i = j then (d.supplied? supply).getD [] else []
  | start _ | freeze _ => []

/-- What the step starts a log from. -/
def Step.origin? (d : Logs) : Step → Option (List Notice)
  | start supply => d.supplied? supply
  | _ => none

/-- The snapshot that the step takes. -/
def Step.taken? (d : Logs) : Step → Option (Nat × List Notice)
  | freeze i => d.contents[i]?.map fun ns => (i, ns)
  | _ => none

theorem Step.origin?_eq_some_iff :
    s.origin? d = some ns ↔ ∃ supply, s = .start supply ∧ d.supplied? supply = some ns := by
  cases s <;> simp [origin?]

theorem Step.taken?_eq_some_iff :
    s.taken? d = some (i, ns) ↔ s = .freeze i ∧ d.contents[i]? = some ns := by
  cases s with
  | freeze j =>
    rw [taken?, Option.map_eq_some_iff]
    constructor
    · rintro ⟨ms, hm, he⟩
      cases he
      exact ⟨rfl, hm⟩
    · rintro ⟨he, hn⟩
      cases he
      exact ⟨ns, hn, rfl⟩
  | _ => simp [taken?]

namespace Logs

/-- Each log gets what the step adds to it, and what is started or taken goes to the end. -/
def after (d : Logs) (s : Step) : Logs where
  contents := (d.contents.mapIdx fun i ns => ns ++ s.adds d i) ++ (s.origin? d).toList
  snapshots := d.snapshots ++ (s.taken? d).toList

theorem mapIdx_self (contents : List (List Notice)) :
    contents.mapIdx (fun _ ns => ns) = contents := List.ext_getElem? (by simp)

theorem set_append {contents : List (List Notice)} (h : contents[i]? = some ns)
    (more : List Notice) : contents.set i (ns ++ more) =
      contents.mapIdx fun j ns => ns ++ if j = i then more else [] := by
  refine List.ext_getElem? fun j => ?_
  obtain ⟨hl, -⟩ := List.getElem?_eq_some_iff.mp h
  by_cases hj : j = i
  · subst hj
    rw [List.getElem?_set_self hl, List.getElem?_mapIdx, h, Option.map_some, if_pos rfl]
  · rw [List.getElem?_set_ne (Ne.symm hj), List.getElem?_mapIdx, if_neg hj]
    simp

theorem change_eq_ok_iff {f : List Notice → Logged Step (List Notice)}
    (hf : ∀ ns, (f ns).result = .ok (ns ++ more)) : (d.change s i f).result = .ok d' ↔
      d.contents[i]?.isSome ∧ d' =
        { d with contents := d.contents.mapIdx fun j ns => ns ++ if j = i then more else [] } := by
  rw [change]
  cases h : d.contents[i]? with
  | none => simp
  | some ns =>
    rw [← set_append h]
    simp [hf, eq_comm]

/-- A step is taken if it fits, and then it does what it says and nothing else. -/
theorem step_eq_ok_iff : (d.step s).result = .ok d' ↔ s.Fits d ∧ d' = d.after s := by
  cases s with
  | start supply =>
    rw [step, Step.Fits]
    cases h : d.supplied? supply with
    | none => simp
    | some ns => simp [after, Step.adds, Step.origin?, Step.taken?, mapIdx_self, h, eq_comm]
  | add j n =>
    rw [step, change_eq_ok_iff fun ns => add_result ns n]
    simp [Step.Fits, after, Step.adds, Step.origin?, Step.taken?]
  | warn j message =>
    rw [step, change_eq_ok_iff fun ns => add_result ns _]
    simp [Step.Fits, after, Step.adds, Step.origin?, Step.taken?]
  | extend j supply =>
    rw [step, Step.Fits]
    by_cases hs : supply = .log j
    · simp [hs]
    rw [if_neg hs]
    cases h : d.supplied? supply with
    | none => simp
    | some more =>
      rw [change_eq_ok_iff fun ns => addAll_result ns more]
      simp [after, Step.adds, Step.origin?, Step.taken?, h, hs]
  | freeze j =>
    rw [step, Step.Fits]
    cases h : d.contents[j]? with
    | none => simp
    | some ns => simp [after, Step.adds, Step.origin?, Step.taken?, mapIdx_self, h, eq_comm]

theorem getElem?_append_toList {α : Type} (xs : List α) (x : Option α) (i : Nat) :
    (xs ++ x.toList)[i]? = if i = xs.length then x else xs[i]? := by
  rcases Nat.lt_trichotomy i xs.length with hi | rfl | hi
  · rw [List.getElem?_append_left hi, if_neg hi.ne]
  · cases x <;> simp
  · rw [if_neg hi.ne', List.getElem?_eq_none hi.le, List.getElem?_eq_none]
    cases x <;> simp <;> omega

theorem getElem?_after (d : Logs) (s : Step) (i : Nat) : (d.after s).contents[i]? =
    if i = d.contents.length then s.origin? d
    else d.contents[i]?.map fun ns => ns ++ s.adds d i := by
  rw [after, getElem?_append_toList, List.length_mapIdx, List.getElem?_mapIdx]

theorem getElem?_after_of_some (h : d.contents[i]? = some ns) (s : Step) :
    (d.after s).contents[i]? = some (ns ++ s.adds d i) := by
  obtain ⟨hl, -⟩ := List.getElem?_eq_some_iff.mp h
  rw [getElem?_after, if_neg hl.ne, h, Option.map_some]

end Logs

end Step

/-! ## Runs -/

/-- The steps taken since there were no logs, each with the logs as they were before it. -/
inductive Run : List (Logs × Step) → Logs → Prop
  | nil : Run [] {}
  | snoc {past d s d'} : Run past d → (d.step s).result = .ok d' → Run (past ++ [(d, s)]) d'

/-- What some steps added to a log, in order. -/
def added (past : List (Logs × Step)) (i : Nat) : List Notice :=
  past.flatMap fun e => e.2.adds e.1 i

/-- A log was started from some notices, and other steps were taken since. -/
def Began (past : List (Logs × Step)) (i : Nat) (origin : List Notice)
    (since : List (Logs × Step)) : Prop :=
  ∃ before d supply, past = before ++ (d, .start supply) :: since ∧ d.contents.length = i ∧
    d.supplied? supply = some origin

/-- A snapshot was taken of a log when it held some notices. -/
def Taken (past : List (Logs × Step)) (k i : Nat) (ns : List Notice) : Prop :=
  ∃ before d since, past = before ++ (d, .freeze i) :: since ∧ d.snapshots.length = k ∧
    d.contents[i]? = some ns

variable {past since : List (Logs × Step)} {d d' : Logs} {s : Step} {i k : Nat}
  {ns origin : List Notice}

/-- A place in a list with one more element is the last one or a place in the list. -/
theorem concat_eq_append_cons_iff {α : Type} {xs before after : List α} {x y : α} :
    xs ++ [x] = before ++ y :: after ↔
      (∃ rest, after = rest ++ [x] ∧ xs = before ++ y :: rest) ∨
        after = [] ∧ xs = before ∧ x = y := by
  constructor
  · intro h
    rcases List.eq_nil_or_concat after with rfl | ⟨rest, z, rfl⟩
    · obtain ⟨hb, hy⟩ := List.append_inj' h rfl
      exact .inr ⟨rfl, hb, (List.cons.inj hy).1⟩
    · rw [List.concat_eq_append, ← List.cons_append, ← List.append_assoc] at h
      obtain ⟨hb, hz⟩ := List.append_inj' h rfl
      exact .inl ⟨rest, by rw [List.concat_eq_append, hz], hb⟩
  · rintro (⟨rest, rfl, rfl⟩ | ⟨rfl, rfl, rfl⟩)
    · simp
    · rfl

theorem added_concat (past : List (Logs × Step)) (e : Logs × Step) (i : Nat) :
    added (past ++ [e]) i = added past i ++ e.2.adds e.1 i := by
  simp [added]

theorem began_concat : Began (past ++ [(d, s)]) i origin since ↔
    (∃ rest, since = rest ++ [(d, s)] ∧ Began past i origin rest) ∨
      since = [] ∧ d.contents.length = i ∧ s.origin? d = some origin := by
  simp only [Began, concat_eq_append_cons_iff, Step.origin?_eq_some_iff]
  constructor
  · rintro ⟨before, e, supply, ⟨rest, rfl, rfl⟩ | ⟨rfl, rfl, he⟩, hl, ho⟩
    · exact .inl ⟨rest, rfl, before, e, supply, rfl, hl, ho⟩
    · cases he
      exact .inr ⟨rfl, hl, supply, rfl, ho⟩
  · rintro (⟨rest, rfl, before, e, supply, rfl, hl, ho⟩ | ⟨rfl, hl, supply, rfl, ho⟩)
    · exact ⟨before, e, supply, .inl ⟨rest, rfl, rfl⟩, hl, ho⟩
    · exact ⟨past, d, supply, .inr ⟨rfl, rfl, rfl⟩, hl, ho⟩

theorem taken_concat : Taken (past ++ [(d, s)]) k i ns ↔
    Taken past k i ns ∨ d.snapshots.length = k ∧ s.taken? d = some (i, ns) := by
  simp only [Taken, concat_eq_append_cons_iff, Step.taken?_eq_some_iff]
  constructor
  · rintro ⟨before, e, since, ⟨rest, rfl, rfl⟩ | ⟨rfl, rfl, he⟩, hl, hn⟩
    · exact .inl ⟨before, e, rest, rfl, hl, hn⟩
    · cases he
      exact .inr ⟨hl, rfl, hn⟩
  · rintro (⟨before, e, rest, rfl, hl, hn⟩ | ⟨hl, rfl, hn⟩)
    · exact ⟨before, e, rest ++ [(d, s)], .inl ⟨rest, rfl, rfl⟩, hl, hn⟩
    · exact ⟨past, d, [], .inr ⟨rfl, rfl, rfl⟩, hl, hn⟩

namespace Run

theorem take (h : Run past d) (s : Step) (hs : s.Fits d) : Run (past ++ [(d, s)]) (d.after s) :=
  h.snoc (Logs.step_eq_ok_iff.mpr ⟨hs, rfl⟩)

theorem last (h : Run (past ++ [(d, s)]) d') : s.Fits d ∧ d' = d.after s := by
  generalize hp : past ++ [(d, s)] = all at h
  cases h with
  | nil => simp at hp
  | snoc _ hs =>
    obtain ⟨-, he⟩ := List.append_inj' hp rfl
    cases he
    exact Logs.step_eq_ok_iff.mp hs

theorem getElem?_contents_iff (h : Run past d) : d.contents[i]? = some ns ↔
    ∃ origin since, Began past i origin since ∧ ns = origin ++ added since i := by
  induction h generalizing ns with
  | nil => simp [Began]
  | @snoc past d s d' _ hs ih =>
    obtain ⟨-, rfl⟩ := Logs.step_eq_ok_iff.mp hs
    -- the last step adds to a log that began before it, or starts one
    have hb : (∃ origin since, Began (past ++ [(d, s)]) i origin since ∧
        ns = origin ++ added since i) ↔
        (∃ ms, d.contents[i]? = some ms ∧ ns = ms ++ s.adds d i) ∨
          d.contents.length = i ∧ s.origin? d = some ns := by
      simp only [began_concat, ih]
      constructor
      · rintro ⟨origin, since, ⟨rest, rfl, hb⟩ | ⟨rfl, hl, ho⟩, rfl⟩
        · exact .inl ⟨_, ⟨origin, rest, hb, rfl⟩, by rw [added_concat, List.append_assoc]⟩
        · exact .inr ⟨hl, by rw [ho, added, List.flatMap_nil, List.append_nil]⟩
      · rintro (⟨_, ⟨origin, rest, hb, rfl⟩, rfl⟩ | ⟨hl, ho⟩)
        · exact ⟨origin, _, .inl ⟨rest, rfl, hb⟩, by rw [added_concat, List.append_assoc]⟩
        · exact ⟨ns, [], .inr ⟨rfl, hl, ho⟩, (List.append_nil ns).symm⟩
    rw [hb, Logs.getElem?_after]
    split_ifs with hi
    · simp [hi]
    · simp [Ne.symm hi, eq_comm]

theorem getElem?_snapshots_iff (h : Run past d) :
    d.snapshots[k]? = some (i, ns) ↔ Taken past k i ns := by
  induction h with
  | nil => simp [Taken]
  | @snoc past d s d' _ hs ih =>
    obtain ⟨-, rfl⟩ := Logs.step_eq_ok_iff.mp hs
    rw [taken_concat, ← ih, Logs.after, Logs.getElem?_append_toList]
    split_ifs with hk
    · simp [hk]
    · simp [Ne.symm hk]

/-- What a log held at some time is the front part of what it holds later on. -/
theorem getElem?_contents_of_earlier (h : Run past d) {before since : List (Logs × Step)}
    {e : Logs} (hp : past = before ++ (e, s) :: since) (hn : e.contents[i]? = some ns) :
    d.contents[i]? = some (ns ++ added ((e, s) :: since) i) := by
  induction h generalizing since with
  | nil => simp at hp
  | @snoc past d t d' _ ht ih =>
    obtain ⟨-, rfl⟩ := Logs.step_eq_ok_iff.mp ht
    rcases concat_eq_append_cons_iff.mp hp with ⟨rest, rfl, hr⟩ | ⟨rfl, -, he⟩
    · rw [Logs.getElem?_after_of_some (ih hr), ← List.cons_append, added_concat,
        List.append_assoc]
    · cases he
      rw [Logs.getElem?_after_of_some hn]
      simp [added]

/-- Extending a log adds the counts of what it is extended with. -/
theorem count_extend {supply : Supply} (h : Run (past ++ [(d, .extend i supply)]) d') :
    ∃ ns more all, d.contents[i]? = some ns ∧ d.supplied? supply = some more ∧
      d'.contents[i]? = some all ∧ ∀ l, count l all = count l ns + count l more := by
  obtain ⟨⟨-, hm, hn⟩, rfl⟩ := h.last
  obtain ⟨more, hm⟩ := Option.isSome_iff_exists.mp hm
  obtain ⟨ns, hn⟩ := Option.isSome_iff_exists.mp hn
  refine ⟨ns, more, ns ++ more, hn, hm, ?_, fun l => count_append l ns more⟩
  rw [Logs.getElem?_after_of_some hn, Step.adds, if_pos rfl, hm, Option.getD_some]

end Run

/-- A run goes on with every step that fits. At any time a log holds what it was started from and
then, in order, all that was added to it since; the snapshots are what the logs held when they were
taken, and the logs still begin with them. -/
theorem logs_are_histories (h : Run past d) :
    (∀ s, (∃ d', Run (past ++ [(d, s)]) d') ↔ s.Fits d) ∧
    (∀ i ns, d.contents[i]? = some ns ↔
      ∃ origin since, Began past i origin since ∧ ns = origin ++ added since i) ∧
    (∀ k i ns, d.snapshots[k]? = some (i, ns) ↔ Taken past k i ns) ∧
    (∀ k i ns, Taken past k i ns → ∃ now, d.contents[i]? = some now ∧ ns <+: now) ∧
    (∀ i supply d', Run (past ++ [(d, .extend i supply)]) d' →
      ∃ ns more all, d.contents[i]? = some ns ∧ d.supplied? supply = some more ∧
        d'.contents[i]? = some all ∧ ∀ l, count l all = count l ns + count l more) ∧
    ∀ ns ∈ d.contents, (Severity.all.map fun l => count l ns).sum = ns.length ∧
      (hasWarning ns = true ↔ 1 ≤ count .warning ns) := by
  refine ⟨fun s => ⟨fun ⟨d', hr⟩ => hr.last.1, fun hs => ⟨_, h.take s hs⟩⟩,
    fun i ns => h.getElem?_contents_iff, fun k i ns => h.getElem?_snapshots_iff, ?_,
    fun i supply d' hr => hr.count_extend, fun ns _ => ⟨sum_count ns, hasWarning_iff⟩⟩
  rintro k i ns ⟨before, e, since, hp, -, hn⟩
  exact ⟨_, h.getElem?_contents_of_earlier hp hn, List.prefix_append _ _⟩

/-- Two logs that are filled from each other. -/
def exchange : List Step :=
  [.start (.list []), .add 0 ⟨.info, "read"⟩, .freeze 0, .start (.snapshot 0), .warn 1 "late",
    .extend 0 (.log 1), .add 1 ⟨.error, "gone"⟩]

theorem exchange_histories : ∃ past d d', Run past d ∧ past.map Prod.snd = exchange ∧
    Run (past ++ [(d, .extend 1 (.log 0))]) d' ∧
    (¬ ∃ e, Run (past ++ [(d, .extend 0 (.log 0))]) e) ∧
    (∃ origin since, Began past 1 origin since ∧
      [⟨.info, "read"⟩, .warning "late", ⟨.error, "gone"⟩] = origin ++ added since 1) ∧
    Taken past 0 0 [⟨.info, "read"⟩] ∧
    (∃ now, d.contents[0]? = some now ∧ [⟨.info, "read"⟩] <+: now) ∧
    (∃ ns more all, d.contents[1]? = some ns ∧ d.supplied? (.log 0) = some more ∧
      d'.contents[1]? = some all ∧ ∀ l, count l all = count l ns + count l more) ∧
    d'.contents[1]?.map (count .warning) = some 2 := by
  have h := ((((((Run.nil.take (.start (.list [])) rfl).take (.add 0 ⟨.info, "read"⟩) rfl).take
    (.freeze 0) rfl).take (.start (.snapshot 0)) rfl).take (.warn 1 "late") rfl).take
    (.extend 0 (.log 1)) ⟨by decide, rfl, rfl⟩).take (.add 1 ⟨.error, "gone"⟩) rfl
  obtain ⟨hgo, hheld, hfrozen, hfront, hcount, -⟩ := logs_are_histories h
  obtain ⟨d', hr⟩ := (hgo (.extend 1 (.log 0))).mpr ⟨by decide, rfl, rfl⟩
  have ht := (hfrozen 0 0 [⟨.info, "read"⟩]).mp rfl
  refine ⟨_, _, d', h, rfl, hr, fun he => ((hgo _).mp he).1 rfl, (hheld 1 _).mp rfl, ht,
    hfront 0 0 _ ht, hcount 1 _ d' hr, ?_⟩
  obtain ⟨-, rfl⟩ := hr.last
  rfl

end RecordSchema.Notice
