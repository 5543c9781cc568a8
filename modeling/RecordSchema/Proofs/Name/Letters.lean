import Mathlib
import RecordSchema.Name.Words

/-! # The letters of a name

The words of a text hold its ASCII letters and digits, in their order and nothing else. Camel case
changes the case of letters only, so the name begins as the first of them does. (What is known of
the case of ASCII letters comes with no smaller part of the library than the whole.)
-/
namespace RecordSchema.Name

/-- A name that a schema may use: a letter or an underscore, then letters, digits and
underscores. -/
def IsLegal (name : String) : Prop :=
  ∃ c cs, name.toList = c :: cs ∧ (c.isAlpha ∨ c = '_') ∧ ∀ d ∈ cs, d.isAlphanum ∨ d = '_'

/-- The first ASCII letter or digit of a text is there and is a letter. -/
def OpensWithLetter (text : String) : Prop :=
  ∃ c, text.toList.find? Char.isAlphanum = some c ∧ c.isAlpha

theorem isAlphanum_of_isCapital {c : Char} (h : isCapital c) : c.isAlphanum := by
  simp_all [isCapital, Char.isAlphanum, Char.isAlpha]

theorem isAlphanum_of_isSmall {c : Char} (h : isSmall c) : c.isAlphanum := by
  rcases Bool.or_eq_true_iff.mp h with h | h <;> simp [Char.isAlphanum, Char.isAlpha, h]

theorem isAlphanum_eq_false {c : Char} (hc : ¬ isCapital c) (hs : ¬ isSmall c) :
    c.isAlphanum = false := by
  simp_all [isCapital, isSmall, Char.isAlphanum, Char.isAlpha]

theorem append_filter {xs ys : List Char} (h : ∀ c ∈ xs, c.isAlphanum) :
    xs ++ ys.filter Char.isAlphanum = (xs ++ ys).filter Char.isAlphanum := by
  rw [List.filter_append, List.filter_eq_self.mpr h]

theorem small_append_filter (cs : List Char) :
    cs.takeWhile isSmall ++ (cs.dropWhile isSmall).filter Char.isAlphanum =
      cs.filter Char.isAlphanum := by
  rw [append_filter fun c hc => isAlphanum_of_isSmall (List.mem_takeWhile_imp hc),
    List.takeWhile_append_dropWhile]

theorem openingCapitals_le (cs : List Char) :
    openingCapitals cs ≤ (cs.takeWhile isCapital).length := by
  simp only [openingCapitals]
  split
  · split
    · exact Nat.sub_le _ _
    · exact le_rfl
  · exact le_rfl

theorem capitals_append_filter {cs : List Char} {n : Nat}
    (hn : n ≤ (cs.takeWhile isCapital).length) :
    cs.take n ++ (cs.drop n).filter Char.isAlphanum = cs.filter Char.isAlphanum := by
  have hc : ∀ c ∈ cs.take n, c.isAlphanum := by
    intro c hc
    have ht : cs.take n = (cs.takeWhile isCapital).take n := by
      conv_lhs => rw [← List.takeWhile_append_dropWhile (p := isCapital) (l := cs)]
      rw [List.take_append_of_le_length hn]
    exact isAlphanum_of_isCapital (List.mem_takeWhile_imp (List.mem_of_mem_take (ht ▸ hc)))
  rw [append_filter hc, List.take_append_drop]

/-- No letter or digit is lost, added or moved by cutting a text into words. -/
theorem flatten_scan (inside : Bool) (cs : List Char) :
    (scan inside cs).flatten = cs.filter Char.isAlphanum := by
  fun_induction scan inside cs with
  | case1 => rfl
  | case2 inside c cs hc n hn ih =>
    rw [List.flatten_cons, ih, List.cons_append, small_append_filter,
      List.filter_cons_of_pos (isAlphanum_of_isCapital hc)]
  | case3 inside c cs hc n hn ih =>
    have hle : n - 1 ≤ (cs.takeWhile isCapital).length := by
      have := openingCapitals_le (c :: cs)
      rw [List.takeWhile_cons_of_pos hc, List.length_cons] at this
      omega
    rw [List.flatten_cons, ih, List.cons_append, capitals_append_filter hle,
      List.filter_cons_of_pos (isAlphanum_of_isCapital hc)]
  | case4 inside c cs hc hs ih =>
    rw [List.flatten_cons, ih, List.cons_append, small_append_filter,
      List.filter_cons_of_pos (isAlphanum_of_isSmall hs)]
  | case5 inside c cs hc hs ih =>
    rw [ih, List.filter_cons_of_neg (by simp [isAlphanum_eq_false hc hs])]

theorem capitalize_map_toLower (w : List Char) :
    (capitalize w).map Char.toLower = w.map Char.toLower := by
  cases w <;> simp [capitalize]

/-- Up to case, the name is the words without anything between them. -/
theorem camelChars_map_toLower (ws : List (List Char)) :
    (camelChars ws).map Char.toLower = ws.flatten.map Char.toLower := by
  cases ws with
  | nil => rfl
  | cons w ws =>
    simp [camelChars, List.flatMap_def, List.map_flatten, Function.comp_def,
      capitalize_map_toLower]

theorem lowerCamel_map_toLower (text : String) :
    (lowerCamel text).toList.map Char.toLower =
      (text.toList.filter Char.isAlphanum).map Char.toLower := by
  rw [lowerCamel, String.toList_ofList, camelChars_map_toLower, flatten_scan]

theorem isAlphanum_toLower (c : Char) : c.toLower.isAlphanum = c.isAlphanum := by
  by_cases hu : c.isUpper
  · have ha : c.isAlpha := by simp [Char.isAlpha, hu]
    rw [Char.isAlphanum, Char.isAlphanum, Char.isAlpha_toLower_eq_isAlpha, ha]
    rfl
  · rw [Char.toLower_eq_of_not_isUpper hu]

theorem isAlphanum_of_mem_lowerCamel {text : String} {c : Char}
    (h : c ∈ (lowerCamel text).toList) : c.isAlphanum := by
  have hm := List.mem_map_of_mem (f := Char.toLower) h
  rw [lowerCamel_map_toLower] at hm
  obtain ⟨d, hd, hdc⟩ := List.mem_map.mp hm
  rw [← isAlphanum_toLower, ← hdc, isAlphanum_toLower]
  exact (List.mem_filter.mp hd).2

theorem lowerCamel_eq_empty_iff (text : String) :
    lowerCamel text = "" ↔ ∀ c ∈ text.toList, ¬ c.isAlphanum := by
  rw [← String.toList_eq_nil_iff, ← List.map_eq_nil_iff (f := Char.toLower),
    lowerCamel_map_toLower, List.map_eq_nil_iff, List.filter_eq_nil_iff]

/-- A name in camel case is legal unless it is empty or begins with a digit. -/
theorem lowerCamel_isLegal_iff (text : String) :
    IsLegal (lowerCamel text) ↔ OpensWithLetter text := by
  have hl := lowerCamel_map_toLower text
  have hf : text.toList.find? Char.isAlphanum = (text.toList.filter Char.isAlphanum).head? :=
    (List.head?_filter ..).symm
  have hm : ∀ c ∈ (lowerCamel text).toList, c.isAlphanum := fun c =>
    isAlphanum_of_mem_lowerCamel
  unfold IsLegal OpensWithLetter
  rw [hf]
  cases hn : (lowerCamel text).toList with
  | nil =>
    rw [hn, List.map_nil, eq_comm, List.map_eq_nil_iff] at hl
    simp [hl]
  | cons c cs =>
    rw [hn, List.map_cons] at hl
    obtain ⟨d, ds, hd, hc, -⟩ := List.map_eq_cons_iff.mp hl.symm
    have ha : c.isAlpha = d.isAlpha := by
      rw [← Char.isAlpha_toLower_eq_isAlpha c, ← hc, Char.isAlpha_toLower_eq_isAlpha]
    rw [hd, List.head?_cons]
    rw [hn] at hm
    constructor
    · rintro ⟨_, _, h, hs, -⟩
      cases h
      rcases hs with hs | rfl
      · exact ⟨d, rfl, ha ▸ hs⟩
      · exact absurd (hm _ List.mem_cons_self) (by decide)
    · rintro ⟨_, h, hs⟩
      cases h
      exact ⟨c, cs, rfl, .inl (ha ▸ hs), fun e he => .inl (hm e (List.mem_cons_of_mem c he))⟩

end RecordSchema.Name
