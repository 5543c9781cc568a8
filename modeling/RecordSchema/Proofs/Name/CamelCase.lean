import RecordSchema.Proofs.Name.Runs
import RecordSchema.Text.Case

/-! # Names in camel case

A name in camel case begins with a small letter or a digit and goes on with letters and digits.
`lowerCamel` yields such names only and leaves each of them alone: its first word ends before the
first capital and, behind a letter or digit, every capital begins a word, so no word is written in
another way than it stands there.
-/
namespace RecordSchema.Name
variable {c : Char} {cs : List Char}

/-- A small letter or digit, then letters and digits. -/
def IsCamel (name : String) : Prop :=
  ∃ c cs, name.toList = c :: cs ∧ (c.isLower ∨ c.isDigit) ∧ ∀ d ∈ cs, d.isAlphanum

theorem toLower_of_isSmall (h : isSmall c) : c.toLower = c :=
  Char.toLower_eq_of_not_isUpper (by simpa [isCapital] using isCapital_eq_false h)

theorem map_toLower_of_small (h : ∀ d ∈ cs, isSmall d) : cs.map Char.toLower = cs :=
  (List.map_congr_left fun d hd => toLower_of_isSmall (h d hd)).trans (List.map_id cs)

theorem isSmall_toLower (h : c.isAlphanum) : isSmall c.toLower :=
  isSmall_of_isAlphanum ((isAlphanum_toLower c).trans h)
    (by simp [isCapital, Char.isUpper_toLower_eq_false])

theorem capitalize_of_isCapital (hc : isCapital c) (h : ∀ d ∈ cs, isSmall d) :
    capitalize (c :: cs) = c :: cs := by
  rw [capitalize, map_toLower_of_small h,
    Char.toUpper_eq_of_not_isLower (Char.not_isLower_of_isUpper hc)]

/-- Words that begin with capitals are written as they stand there. -/
theorem flatMap_capitalize_scan (h : ∀ d ∈ cs, d.isAlphanum)
    (hc : ∀ d ∈ cs.head?, isCapital d) : (scan true cs).flatMap capitalize = cs := by
  have hgen : ∀ inside, inside = true → (scan inside cs).flatMap capitalize = cs := by
    intro inside hi
    fun_induction scan inside cs with
    | case1 => rfl
    | case2 inside c cs hcap n hn ih =>
      obtain ⟨-, h⟩ := List.forall_mem_cons.mp h
      rw [List.flatMap_cons, capitalize_of_isCapital hcap fun d => List.mem_takeWhile_imp,
        ih (fun d hd => h d ((List.dropWhile_suffix _).subset hd)) (isCapital_of_head_dropWhile h) rfl,
        List.cons_append, List.takeWhile_append_dropWhile]
    | case3 inside c cs hcap n hn ih => exact absurd (.inl hi) hn
    | case4 inside c cs hcap hs ih | case5 inside c cs hcap hs ih =>
      exact absurd (hc c rfl) hcap
  exact hgen true rfl

/-- A name that is in camel case already stays as it is. -/
theorem IsCamel.lowerCamel_eq {name : String} (h : IsCamel name) : lowerCamel name = name := by
  obtain ⟨c, cs, hn, hc, h⟩ := h
  have hs : isSmall c := Bool.or_eq_true_iff.mpr hc
  have hcap : ¬ isCapital c := by simp [isCapital_eq_false hs]
  have hword : ∀ d ∈ c :: cs.takeWhile isSmall, isSmall d :=
    List.forall_mem_cons.mpr ⟨hs, fun d => List.mem_takeWhile_imp⟩
  rw [← String.toList_inj, lowerCamel, String.toList_ofList, hn, scan, if_neg hcap, if_pos hs,
    camelChars, map_toLower_of_small hword,
    flatMap_capitalize_scan (fun d hd => h d ((List.dropWhile_suffix _).subset hd))
      (isCapital_of_head_dropWhile h),
    List.cons_append, List.takeWhile_append_dropWhile]

/-- Every name comes out empty or in camel case. -/
theorem lowerCamel_isCamel (text : String) : lowerCamel text = "" ∨ IsCamel (lowerCamel text) := by
  cases hw : scan false text.toList with
  | nil => exact .inl (by rw [lowerCamel, hw]; rfl)
  | cons w ws =>
    have hname : (lowerCamel text).toList = w.map Char.toLower ++ ws.flatMap capitalize := by
      rw [lowerCamel, String.toList_ofList, hw, camelChars]
    obtain ⟨c, cs, rfl⟩ := List.exists_cons_of_ne_nil
      (not_isEmpty_of_mem_scan (hw ▸ List.mem_cons_self : w ∈ scan false text.toList))
    have hm : ∀ d ∈ (lowerCamel text).toList, d.isAlphanum := fun d => isAlphanum_of_mem_lowerCamel
    rw [List.map_cons, List.cons_append] at hname
    rw [hname, List.forall_mem_cons] at hm
    have hs : isSmall c.toLower := isSmall_toLower ((isAlphanum_toLower c).symm.trans hm.1)
    exact .inr ⟨_, _, hname, Bool.or_eq_true_iff.mp hs, hm.2⟩

theorem lowerCamel_eq_self_iff (name : String) : lowerCamel name = name ↔ name = "" ∨ IsCamel name := by
  constructor
  · intro h
    exact h ▸ lowerCamel_isCamel name
  · rintro (rfl | h)
    · exact (lowerCamel_eq_empty_iff "").mpr (by simp)
    · exact h.lowerCamel_eq

/-- Camel case keeps the letters and digits up to case, and the names in camel case are those it
does not change. -/
theorem lowerCamel_image (text : String) :
    (lowerCamel text = "" ↔ ∀ c ∈ text.toList, ¬ c.isAlphanum) ∧
    (lowerCamel text = "" ∨ IsCamel (lowerCamel text)) ∧
    Text.lower (lowerCamel text) =
      Text.lower (String.ofList (text.toList.filter Char.isAlphanum)) ∧
    (lowerCamel text = text ↔ text = "" ∨ IsCamel text) ∧
    lowerCamel (lowerCamel text) = lowerCamel text := by
  refine ⟨lowerCamel_eq_empty_iff text, lowerCamel_isCamel text, ?_, lowerCamel_eq_self_iff text,
    (lowerCamel_eq_self_iff _).mpr (lowerCamel_isCamel text)⟩
  rw [Text.lower, Text.lower, lowerCamel_map_toLower, String.toList_ofList]

end RecordSchema.Name
