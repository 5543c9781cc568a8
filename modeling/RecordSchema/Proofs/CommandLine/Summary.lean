import RecordSchema.CommandLine.Summary
import RecordSchema.Proofs.Notice.Count
import RecordSchema.Proofs.Terminal.Plain

/-! # When there is a summary

Notices leave a summary unless the log level lies above that of warnings. The notices of settings
and of schemas are warnings, and then the summary has a single count.
-/
namespace RecordSchema.CommandLine
variable {ns : List Notice}

/-- No control character stands in a summary. -/
theorem not_mem_summaryText {a : Char} (ha : a.toNat < ' '.toNat) (ns : List Notice) :
    a ∉ (summaryText ns).toList := by
  have hlit : ∀ cs : List Char, (cs.all fun c => decide (' '.toNat ≤ c.toNat)) = true → a ∉ cs :=
    fun cs hcs hm =>
      absurd (of_decide_eq_true (List.all_eq_true.mp hcs a hm)) (Nat.not_le_of_lt ha)
  have hcount : ∀ l, a ∉ (countText ns l).toList := by
    intro l
    have hd : a ∉ (Notice.count l ns).repr.toList := by
      rw [Nat.toList_repr]
      refine hlit _ (List.all_eq_true.mpr fun c hc => decide_eq_true ?_)
      have hd := Nat.isDigit_of_mem_toDigits (by decide) (by decide) hc
      exact Nat.le_trans (by decide) (Char.isDigit_iff_toNat.mp hd).1
    have hb : a ∉ " ".toList := hlit _ rfl
    have hs : a ∉ "(s)".toList := hlit _ rfl
    have hn : a ∉ l.name.toList := by cases l <;> exact hlit _ rfl
    rw [countText, Nat.toString_eq_repr]
    simp only [String.toList_append, List.mem_append, hd, hb, hn, hs, or_self, not_false_eq_true]
  rw [summaryText, String.toList_append, String.toList_intercalate, List.mem_append, not_or]
  refine ⟨hlit _ rfl, Terminal.not_mem_intercalate (hlit _ rfl) fun cs hcs => ?_⟩
  obtain ⟨s, hs, rfl⟩ := List.mem_map.mp hcs
  obtain ⟨l, -, rfl⟩ := List.mem_map.mp hs
  exact hcount l

theorem isPlain_summaryText (ns : List Notice) : Terminal.IsPlain (summaryText ns) :=
  not_mem_summaryText (by decide) ns

theorem isPlain_summaryLine (ns : List Notice) : Terminal.IsPlain (summaryText ns ++ "\n") :=
  Terminal.isPlain_append.mpr ⟨isPlain_summaryText ns, Terminal.isPlain_literal rfl⟩

/-- The line of the summary, painted where there is colour. -/
theorem summary_of_shown (hn : ns ≠ []) {level : Int} (hl : ¬ Log.warning < level)
    (c : Terminal.Console) : ∃ worst, (Notice.present ns).getLast? = some worst ∧
      summary c level ns =
        (if c.colour then worst.paint.apply (summaryText ns) else summaryText ns) ++ "\n" := by
  obtain ⟨worst, hw⟩ := List.getLast?_isSome.mpr (Notice.present_ne_nil hn) |>
    Option.isSome_iff_exists.mp
  refine ⟨worst, hw, ?_⟩
  rw [summary, hw]
  simp only [if_neg hl, Terminal.Console.put]
  cases hc : c.colour with
  | true => rfl
  | false => exact (isPlain_summaryLine ns).plain_eq

theorem summary_eq_empty_iff (hn : ns ≠ []) (c : Terminal.Console) (level : Int) :
    summary c level ns = "" ↔ Log.warning < level := by
  by_cases hl : Log.warning < level
  · obtain ⟨worst, hw⟩ := Option.isSome_iff_exists.mp
      (List.getLast?_isSome.mpr (Notice.present_ne_nil hn))
    simp [summary, hw, hl]
  · obtain ⟨worst, -, hs⟩ := summary_of_shown hn hl c
    rw [hs]
    simp [hl]

theorem isPlain_summary {c : Terminal.Console} (hc : c.colour = false) (level : Int)
    (ns : List Notice) : Terminal.IsPlain (summary c level ns) := by
  by_cases hn : ns = []
  · subst hn
    exact Terminal.isPlain_literal rfl
  · by_cases hl : Log.warning < level
    · rw [(summary_eq_empty_iff hn c level).mpr hl]
      exact Terminal.isPlain_literal rfl
    · obtain ⟨worst, -, hs⟩ := summary_of_shown hn hl c
      rw [hs, hc]
      exact isPlain_summaryLine ns

/-- The summary of a number of warnings. -/
def warningSummary (c : Terminal.Console) (level : Int) (k : Nat) : String :=
  let line := "confql: " ++ toString k ++ " warning(s)"
  if k = 0 ∨ Log.warning < level then ""
  else (if c.colour then Terminal.yellow.apply line else line) ++ "\n"

/-- Warnings have one count, and the summary is yellow where there is colour. -/
theorem summary_of_warnings (h : ∀ n ∈ ns, n.level = .warning) (c : Terminal.Console)
    (level : Int) : summary c level ns = warningSummary c level ns.length := by
  by_cases hn : ns = []
  · subst hn
    rfl
  · have hz : ns.length ≠ 0 := List.length_eq_zero_iff.not.mpr hn
    by_cases hl : Log.warning < level
    · rw [(summary_eq_empty_iff hn c level).mpr hl, warningSummary, if_pos (.inr hl)]
    · obtain ⟨worst, hw, hs⟩ := summary_of_shown hn hl c
      have hp := Notice.present_of_warnings hn h
      rw [hp] at hw
      cases hw
      have ht : summaryText ns = "confql: " ++ toString ns.length ++ " warning(s)" := by
        rw [summaryText, hp, List.map_singleton, String.intercalate_singleton, countText,
          Notice.count_of_warnings h, if_pos rfl]
        simp only [String.append_assoc]
        rfl
      have hb : ¬ (ns.length = 0 ∨ Log.warning < level) := by
        rintro (h | h)
        · exact hz h
        · exact hl h
      rw [hs, ht, warningSummary, if_neg hb]
      rfl

end RecordSchema.CommandLine
