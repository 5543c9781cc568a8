import Mathlib.Algebra.BigOperators.Group.List.Basic
import Mathlib.Algebra.GroupWithZero.Nat
import RecordSchema.Notice

/-! # Counting notices

Every notice has one of the severities, so their counts add up to the number of all notices. The
severities that occur are those with a count.
-/
namespace RecordSchema.Notice
variable {ns : List Notice}

theorem count_of_warnings (h : ∀ n ∈ ns, n.level = .warning) (l : Severity) :
    count l ns = if l = .warning then ns.length else 0 := by
  induction ns with
  | nil => simp [count]
  | cons n ns ih =>
    obtain ⟨hn, hns⟩ := List.forall_mem_cons.mp h
    have ih := ih hns
    unfold count at ih ⊢
    rw [List.countP_cons, ih, hn]
    cases l <;> simp

/-- Every notice has one of the severities. -/
theorem sum_count (ns : List Notice) : (Severity.all.map fun l => count l ns).sum = ns.length := by
  induction ns with
  | nil => rfl
  | cons n ns ih =>
    have hn : (Severity.all.map fun l => count l [n]).sum = 1 := by
      obtain ⟨level, message⟩ := n
      cases level <;> rfl
    have ha : ∀ l, count l (n :: ns) = count l [n] + count l ns := fun l =>
      count_append l [n] ns
    simp only [ha, List.sum_map_add, hn, ih, List.length_cons]
    omega

theorem mem_present {l : Severity} : l ∈ present ns ↔ ∃ n ∈ ns, n.level = l := by
  rw [present, List.mem_filter, and_iff_right (Severity.mem_all l), decide_eq_true_eq, count]
  rw [Ne, List.countP_eq_zero]
  simp

theorem present_ne_nil (hn : ns ≠ []) : present ns ≠ [] := by
  obtain ⟨n, hm⟩ := List.exists_mem_of_ne_nil ns hn
  exact List.ne_nil_of_mem (mem_present.mpr ⟨n, hm, rfl⟩)

theorem present_of_warnings (hn : ns ≠ []) (h : ∀ n ∈ ns, n.level = .warning) :
    present ns = [.warning] := by
  have hl : ns.length ≠ 0 := List.length_eq_zero_iff.not.mpr hn
  simp [present, Severity.all, count_of_warnings h, hl]

theorem hasWarning_iff : hasWarning ns = true ↔ 1 ≤ count .warning ns := by
  rw [hasWarning, List.any_eq_true, count, Nat.one_le_iff_ne_zero, ← Nat.pos_iff_ne_zero,
    List.countP_pos_iff]

end RecordSchema.Notice
