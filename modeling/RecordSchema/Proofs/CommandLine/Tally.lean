import RecordSchema.CommandLine.Run
import RecordSchema.Proofs.CommandLine.Summary
import RecordSchema.Proofs.Terminal.Painting

/-! # What the summary counts

The summary tallies notices by their severity: it names the severities that occur, mildest first,
with the number of notices of each. The last of them is the worst, and its colour is that of the
whole line.
-/
namespace RecordSchema

namespace Severity

def rank : Severity → Nat
  | info => 0
  | warning => 1
  | error => 2

/-- The code that selects the colour of a severity. -/
def colourCode : Severity → Nat
  | info => 34
  | warning => 33
  | error => 91

theorem paint_eq (l : Severity) : l.paint = [⟨l.colourCode, 39⟩] := by cases l <;> rfl

end Severity

namespace Notice
variable {ns ms : List Notice} {l worst : Severity}

/-- Severities and numbers that account for all of the notices. -/
structure Tally (ns : List Notice) (entries : List (Severity × Nat)) : Prop where
  ordered : (entries.map Prod.fst).Pairwise fun l l' => l.rank < l'.rank
  occurs : ∀ l, l ∈ entries.map Prod.fst ↔ ∃ n ∈ ns, n.level = l
  counted : ∀ e ∈ entries, e.2 = (ns.filter fun n => n.level = e.1).length
  positive : ∀ e ∈ entries, 0 < e.2
  total : (entries.map Prod.snd).sum = ns.length

def tally (ns : List Notice) : List (Severity × Nat) := (present ns).map fun l => (l, count l ns)

theorem map_fst_tally (ns : List Notice) : (tally ns).map Prod.fst = present ns := by
  rw [tally, List.map_map]
  exact List.map_id _

theorem present_ordered (ns : List Notice) :
    (present ns).Pairwise fun l l' => l.rank < l'.rank := by
  have ho : Severity.all.Pairwise fun l l' => l.rank < l'.rank := by decide
  exact ho.filter _

/-- Severities that do not occur add nothing to the sum of all counts. -/
theorem sum_present (ns : List Notice) (ls : List Severity) :
    ((ls.filter fun l => decide (count l ns ≠ 0)).map fun l => count l ns).sum =
      (ls.map fun l => count l ns).sum := by
  induction ls with
  | nil => rfl
  | cons l ls ih =>
    by_cases hc : count l ns = 0
    · rw [List.filter_cons_of_neg (by simp [hc]), ih, List.map_cons, List.sum_cons, hc, zero_add]
    · rw [List.filter_cons_of_pos (by simp [hc]), List.map_cons, List.map_cons, List.sum_cons,
        List.sum_cons, ih]

theorem tally_tally (ns : List Notice) : Tally ns (tally ns) where
  ordered := map_fst_tally ns ▸ present_ordered ns
  occurs := fun l => by rw [map_fst_tally, mem_present]
  counted := by
    intro e he
    obtain ⟨l, -, rfl⟩ := List.mem_map.mp he
    rw [count, List.countP_eq_length_filter]
    rfl
  positive := by
    intro e he
    obtain ⟨l, hl, rfl⟩ := List.mem_map.mp he
    exact Nat.pos_of_ne_zero (of_decide_eq_true (List.mem_filter.mp hl).2)
  total := by
    rw [tally, List.map_map, ← sum_count ns, ← sum_present ns Severity.all]
    rfl

/-- The severities stand in their order, so the last one is the worst. -/
theorem worst_of_getLast? (h : (present ns).getLast? = some worst) :
    (∃ n ∈ ns, n.level = worst) ∧ ∀ n ∈ ns, n.level.rank ≤ worst.rank := by
  refine ⟨mem_present.mp (List.mem_of_getLast? h), fun n hn => ?_⟩
  obtain ⟨front, hf⟩ := List.getLast?_eq_some_iff.mp h
  have hp := present_ordered ns
  have hm : n.level ∈ present ns := mem_present.mpr ⟨n, hn, rfl⟩
  rw [hf] at hp hm
  rcases List.mem_append.mp hm with hm | hm
  · exact Nat.le_of_lt ((List.pairwise_append.mp hp).2.2 _ hm _ (List.mem_singleton_self _))
  · exact Nat.le_of_eq (congrArg Severity.rank (List.mem_singleton.mp hm))

/-! ## The order of the notices -/

theorem count_perm (h : ns.Perm ms) (l : Severity) : count l ns = count l ms := h.countP_eq _

theorem present_perm (h : ns.Perm ms) : present ns = present ms := by
  simp only [present, count_perm h]

end Notice

namespace CommandLine
open Notice (Tally tally)
open Terminal (IsPlain plain rendition)
variable {ns ms : List Notice}

/-- The line that tells what has been counted. -/
def tallyLine (entries : List (Severity × Nat)) : String :=
  "confql: " ++ ", ".intercalate (entries.map fun e => toString e.2 ++ " " ++ e.1.name ++ "(s)")

theorem summaryText_eq (ns : List Notice) : summaryText ns = tallyLine (tally ns) := by
  rw [tallyLine, tally, List.map_map]
  rfl

theorem newline_not_mem_summaryText (ns : List Notice) : '\n' ∉ (summaryText ns).toList :=
  not_mem_summaryText (by decide) ns

theorem summary_perm (h : ns.Perm ms) (c : Terminal.Console) (level : Int) :
    summary c level ns = summary c level ms := by
  have ht : summaryText ns = summaryText ms := by
    rw [summaryText, summaryText, Notice.present_perm h]
    refine congrArg _ (congrArg _ (List.map_congr_left fun l _ => ?_))
    rw [countText, countText, Notice.count_perm h]
  rw [summary, summary, Notice.present_perm h, ht]

def shaded (colour : Bool) (l : Severity) (line : String) : String :=
  if colour then String.ofList (rendition l.colourCode) ++ line ++ String.ofList (rendition 39)
  else line

theorem newline_not_mem_shaded (colour : Bool) (l : Severity) {line : String}
    (h : '\n' ∉ line.toList) : '\n' ∉ (shaded colour l line).toList := by
  have ho : '\n' ∉ rendition l.colourCode := by cases l <;> decide
  have hc : '\n' ∉ rendition 39 := by decide
  cases colour with
  | false => exact h
  | true => simp [shaded, h, ho, hc]

theorem apply_summaryText (l : Severity) (ns : List Notice) :
    l.paint.apply (summaryText ns) = shaded true l (summaryText ns) := by
  rw [Terminal.apply_of_line (isPlain_summaryText ns) (newline_not_mem_summaryText ns),
    Severity.paint_eq]
  simp [Terminal.Paint.opening, Terminal.Paint.closing, shaded]

theorem plain_summary (hn : ns ≠ []) {level : Int} (hl : level ≤ Log.warning)
    (c : Terminal.Console) : plain (summary c level ns) = summaryText ns ++ "\n" := by
  obtain ⟨worst, -, hs⟩ := summary_of_shown hn (Int.not_lt.mpr hl) c
  rw [hs]
  cases c.colour with
  | false => exact (isPlain_summaryLine ns).plain_eq
  | true => exact Terminal.plain_apply_append _ (isPlain_summaryText ns) _

/-- Notices change the error stream only, and nothing is written where there are none of them or
the level lies above that of warnings. Otherwise there is one line, which tallies the notices and
has the colour of the worst severity where there is colour, whatever the order of the notices. -/
theorem summary_is_faithful (c : Terminal.Console) (level : Int) (ns : List Notice) :
    (∀ w log d, d.owed = ns → Session.finish ⟨level, c⟩ w ⟨log, .ok d⟩ =
      { Session.finish ⟨level, c⟩ w ⟨log, .ok { d with owed := [] }⟩ with
        errors := Session.logText ⟨level, c⟩ log ++ summary c level ns }) ∧
    (ns = [] ∨ Log.warning < level → summary c level ns = "") ∧
    (ns ≠ [] → level ≤ Log.warning → ∃ entries worst, Tally ns entries ∧
      ((∃ n ∈ ns, n.level = worst) ∧ ∀ n ∈ ns, n.level.rank ≤ worst.rank) ∧
      summary c level ns = shaded c.colour worst (tallyLine entries) ++ "\n" ∧
      '\n' ∉ (shaded c.colour worst (tallyLine entries)).toList ∧
      plain (summary c level ns) = tallyLine entries ++ "\n" ∧
      (c.colour = false → IsPlain (summary c level ns))) ∧
    ∀ ms, ns.Perm ms → summary c level ns = summary c level ms := by
  refine ⟨?_, ?_, fun hn hl => ?_, ?_⟩
  · rintro w log d rfl
    rfl
  · rintro (rfl | hl)
    · rfl
    · by_cases hn : ns = []
      · rw [hn]
        rfl
      · exact (summary_eq_empty_iff hn c level).mpr hl
  · obtain ⟨worst, hw, hs⟩ := summary_of_shown hn (Int.not_lt.mpr hl) c
    have hshown : summary c level ns = shaded c.colour worst (summaryText ns) ++ "\n" := by
      rw [hs]
      cases c.colour with
      | false => rfl
      | true => rw [if_pos rfl, apply_summaryText]
    refine ⟨tally ns, worst, Notice.tally_tally ns, Notice.worst_of_getLast? hw, ?_⟩
    rw [← summaryText_eq]
    exact ⟨hshown, newline_not_mem_shaded _ _ (newline_not_mem_summaryText ns),
      plain_summary hn hl c, fun hc => isPlain_summary hc level ns⟩
  · exact fun ms hp => summary_perm hp c level

/-- Notices of two severities, the worse one first and last. -/
def mixed : List Notice := [⟨.error, "gone"⟩, ⟨.info, "read"⟩, ⟨.error, "late"⟩]

theorem mixed_summary :
    mixed ≠ [] ∧ Log.trace ≤ Log.warning ∧ Log.warning < Log.critical ∧
    summary ⟨false⟩ Log.trace mixed = "confql: 1 info(s), 2 error(s)\n" ∧
    (∃ entries, Tally mixed entries ∧
      summary ⟨true⟩ Log.trace mixed = shaded true .error (tallyLine entries) ++ "\n") ∧
    summary ⟨true⟩ Log.critical mixed = "" ∧
    summary ⟨true⟩ Log.trace mixed.reverse = summary ⟨true⟩ Log.trace mixed := by
  have hn : mixed ≠ [] := by decide
  have hl : Log.trace ≤ Log.warning := by decide
  have hc : Log.warning < Log.critical := by decide
  obtain ⟨-, -, hs, hp⟩ := summary_is_faithful ⟨true⟩ Log.trace mixed
  obtain ⟨-, hquiet, -⟩ := summary_is_faithful ⟨true⟩ Log.critical mixed
  obtain ⟨entries, worst, ht, ⟨-, hw⟩, hsum, -⟩ := hs hn hl
  obtain rfl : worst = .error := by
    have hr := hw ⟨.error, "gone"⟩ (by decide)
    cases worst with
    | info | warning => exact absurd hr (by decide)
    | error => rfl
  exact ⟨hn, hl, hc, by decide, ⟨entries, ht, hsum⟩, hquiet (.inr hc),
    (hp _ (List.reverse_perm _).symm).symm⟩

end CommandLine

end RecordSchema
