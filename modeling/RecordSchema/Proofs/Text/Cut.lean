import Mathlib.Data.List.TakeWhile
import Mathlib.Tactic.SplitIfs
import RecordSchema.Text.Cut

/-! # Where a text is cut

A run of characters does not go past one that is not in its class. The pieces of a text between the
places of a character are the only ones that hold no such character and give the text when they are
joined by it. The first place of a character is the only one without such a character before it.
-/
namespace RecordSchema.Text
variable {sep : Char} {s front back : String} {pieces : List String}

section Stop
variable {p : Char → Bool} {c : Char} (hp : p c = false)
include hp

theorem takeWhile_append_stop (cs rest : List Char) :
    (cs ++ c :: rest).takeWhile p = cs.takeWhile p := by
  induction cs with
  | nil => simp [hp]
  | cons d cs ih => rw [List.cons_append, List.takeWhile_cons, List.takeWhile_cons, ih]

theorem dropWhile_append_stop (cs rest : List Char) :
    (cs ++ c :: rest).dropWhile p = cs.dropWhile p ++ c :: rest := by
  induction cs with
  | nil => simp [hp]
  | cons d cs ih =>
    rw [List.cons_append, List.dropWhile_cons, List.dropWhile_cons, ih]
    split <;> rfl

end Stop

theorem splitBy_eq_splitOnP (p : Char → Bool) (cs : List Char) : splitBy p cs = cs.splitOnP p := by
  induction cs with
  | nil => rfl
  | cons c cs ih =>
    rw [splitBy, List.splitOnP_cons_eq_if_modifyHead, ih]
    split_ifs with hc
    · rfl
    · cases hp : cs.splitOnP p with
      | nil => exact absurd hp (List.splitOnP_ne_nil p cs)
      | cons piece pieces => rfl

theorem not_of_mem_splitBy {p : Char → Bool} {cs piece : List Char} (h : piece ∈ splitBy p cs) :
    ∀ c ∈ piece, p c = false := by
  induction cs generalizing piece with
  | nil =>
    cases List.mem_singleton.mp h
    simp
  | cons c cs ih =>
    rw [splitBy] at h
    split_ifs at h with hc
    · rcases List.mem_cons.mp h with rfl | h
      · simp
      · exact ih h
    · have hc : p c = false := by simpa using hc
      cases hp : splitBy p cs with
      | nil =>
        rw [hp] at h
        cases List.mem_singleton.mp h
        simpa using hc
      | cons first pieces =>
        rw [hp] at h ih
        rcases List.mem_cons.mp h with rfl | h
        · exact List.forall_mem_cons.mpr ⟨hc, ih List.mem_cons_self⟩
        · exact ih (List.mem_cons_of_mem _ h)

theorem splitAtChar_eq_iff : splitAtChar sep s = pieces ↔
    pieces ≠ [] ∧ (∀ piece ∈ pieces, sep ∉ piece.toList) ∧
      s = String.intercalate (String.singleton sep) pieces := by
  have hs : splitBy (· == sep) s.toList = s.toList.splitOn sep := splitBy_eq_splitOnP _ _
  constructor
  · rintro rfl
    refine ⟨?_, ?_, ?_⟩
    · rw [splitAtChar, hs]
      simp [List.splitOn, List.splitOnP_ne_nil]
    · intro piece hp hm
      obtain ⟨cs, hc, rfl⟩ := List.mem_map.mp hp
      rw [String.toList_ofList] at hm
      simpa using not_of_mem_splitBy hc sep hm
    · have hback : (splitAtChar sep s).map String.toList = s.toList.splitOn sep := by
        simp [splitAtChar, hs, Function.comp_def]
      rw [← String.toList_inj, String.toList_intercalate, hback, String.toList_singleton,
        List.intercalate_splitOn]
  · rintro ⟨hn, hm, rfl⟩
    have hne : pieces.map String.toList ≠ [] := by simpa using hn
    have hmem : ∀ l ∈ pieces.map String.toList, sep ∉ l := by
      intro l hl
      obtain ⟨piece, hp, rfl⟩ := List.mem_map.mp hl
      exact hm piece hp
    rw [splitAtChar, hs, String.toList_intercalate, String.toList_singleton,
      List.splitOn_intercalate sep hmem hne]
    simp [Function.comp_def]

/-- A text whose lines all end with the character is cut into its lines and the empty text. -/
theorem splitAtChar_lines {lines : List String} (h : ∀ line ∈ lines, sep ∉ line.toList) :
    splitAtChar sep (String.join (lines.map fun line => line ++ String.singleton sep)) =
      lines ++ [""] := by
  have hjoin : String.join (lines.map fun line => line ++ String.singleton sep) =
      String.intercalate (String.singleton sep) (lines ++ [""]) := by
    clear h
    induction lines with
    | nil => rfl
    | cons line lines ih =>
      rw [List.map_cons, String.join_cons, ih, List.cons_append,
        String.intercalate_cons_of_ne_nil (by simp)]
  refine splitAtChar_eq_iff.mpr ⟨by simp, fun line hl => ?_, hjoin⟩
  rcases List.mem_append.mp hl with hl | hl
  · exact h line hl
  · rw [List.mem_singleton.mp hl]
    simp

theorem cutFirst?_append (h : sep ∉ front.toList) :
    cutFirst? sep (front ++ String.singleton sep ++ back) = some (front, back) := by
  have hpos : ∀ c ∈ front.toList, (c != sep) = true := by
    intro c hc
    exact bne_iff_ne.mpr fun he => h (he ▸ hc)
  have htext : (front ++ String.singleton sep ++ back).toList =
      front.toList ++ sep :: back.toList := by
    simp
  have hdrop : (front.toList ++ sep :: back.toList).dropWhile (· != sep) = sep :: back.toList := by
    rw [List.dropWhile_append_of_pos hpos, List.dropWhile_cons_of_neg (by simp)]
  have htake : (front.toList ++ sep :: back.toList).takeWhile (· != sep) = front.toList := by
    rw [List.takeWhile_append_of_pos hpos, List.takeWhile_cons_of_neg (by simp), List.append_nil]
  simp only [cutFirst?, htext, hdrop, htake, String.ofList_toList]

theorem cutFirst?_of_not_mem (h : sep ∉ s.toList) : cutFirst? sep s = none := by
  have hdrop : s.toList.dropWhile (· != sep) = [] := by
    refine List.dropWhile_eq_nil_iff.mpr fun c hc => ?_
    exact bne_iff_ne.mpr fun he => h (he ▸ hc)
  simp only [cutFirst?, hdrop]

/-- A text with a character in it is cut at the first of its places. -/
theorem exists_cut (h : sep ∈ s.toList) : ∃ front back,
    s = front ++ String.singleton sep ++ back ∧ sep ∉ front.toList := by
  obtain ⟨front, back, hs, hf⟩ := List.eq_append_cons_of_mem h
  refine ⟨String.ofList front, String.ofList back, ?_, by rwa [String.toList_ofList]⟩
  rw [← String.toList_inj, hs]
  simp

end RecordSchema.Text
