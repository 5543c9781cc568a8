import RecordSchema.Proofs.Name.SnakeCase

/-! # Tags in capitals

A tag of small letters, digits and underscores may as well be written in capitals, as long as the
letters of each of its words stand before the digits. The capitals that open a word are one word of
their own; behind a digit every capital begins a word, as it has to where a name that is in camel
case already must not change.
-/
namespace RecordSchema.Name
variable {c : Char} {cs run : List Char} {tag : String}

def upper (s : String) : String := String.ofList (Text.upperName s.toList)

/-- Small letters, digits and underscores only. -/
def IsSmallTag (s : String) : Prop := ∀ c ∈ s.toList, isSmall c ∨ c = '_'

instance (s : String) : Decidable (IsSmallTag s) := List.decidableBAll _ _

/-- Letters, then digits. -/
def LettersFirst (run : List Char) : Prop :=
  ∃ letters digits, run = letters ++ digits ∧ (∀ c ∈ letters, c.isLower) ∧
    ∀ c ∈ digits, c.isDigit

/-- A run with those of its letters as capitals that a digit stands before. -/
def raised (run : List Char) : List Char :=
  run.takeWhile Char.isLower ++ (run.dropWhile Char.isLower).map Char.toUpper

/-- The runs behind one another, each but the first with a capital. -/
def camelRuns : List (List Char) → List Char
  | [] => []
  | run :: others => run ++ others.flatMap (List.modifyHead Char.toUpper)

/-! ## Capitals -/

theorem capital_of_isSmall (h : isSmall c) : Text.capital c = c.toUpper := by
  have hi : c ≠ '\u0131' := by
    rintro rfl
    exact absurd h (by decide)
  have hs : c ≠ '\u017f' := by
    rintro rfl
    exact absurd h (by decide)
  rw [Text.capital, if_neg hi, if_neg hs]

theorem isAlphanum_toUpper (c : Char) : c.toUpper.isAlphanum = c.isAlphanum := by
  rw [← isAlphanum_toLower, Char.toLower_toUpper_eq_toLower, isAlphanum_toLower]

theorem isAlphanum_capital (h : isSmall c ∨ c = '_') :
    (Text.capital c).isAlphanum = c.isAlphanum := by
  rcases h with h | rfl
  · rw [capital_of_isSmall h, isAlphanum_toUpper]
  · rfl

theorem toLower_capital (h : isSmall c ∨ c = '_') : (Text.capital c).toLower = c.toLower := by
  rcases h with h | rfl
  · rw [capital_of_isSmall h, Char.toLower_toUpper_eq_toLower]
  · rfl

theorem upperName_of_small (h : ∀ d ∈ run, isSmall d) : Text.upperName run = run.map Char.toUpper :=
  List.map_congr_left fun d hd => capital_of_isSmall (h d hd)

theorem not_isLower_of_isDigit (h : c.isDigit) : ¬ c.isLower := by
  have hnine : '9'.toNat = 57 := rfl
  have ha : 'a'.toNat = 97 := rfl
  have hd := (Char.isDigit_iff_toNat.mp h).2
  simp only [Char.isLower, Bool.and_eq_true, decide_eq_true_eq, UInt32.le_iff_toNat_le, ge_iff_le,
    Char.toNat_val, not_and]
  omega

theorem toUpper_of_isDigit (h : c.isDigit) : c.toUpper = c :=
  Char.toUpper_eq_of_not_isLower (not_isLower_of_isDigit h)

theorem isDigit_of_isSmall (h : isSmall c) (hl : ¬ c.isLower) : c.isDigit := by
  simpa [isSmall, hl] using h

theorem toUpper_eq_self_iff (h : isSmall c) : c.toUpper = c ↔ c.isDigit := by
  constructor
  · intro he
    refine isDigit_of_isSmall h fun hl => ?_
    have hu : c.toUpper.isLower = false := Char.isLower_toUpper_eq_false c
    rw [he, hl] at hu
    cases hu
  · exact toUpper_of_isDigit

/-! ## A single run -/

/-- Behind its first letters a run goes on with a digit, if at all. -/
theorem isDigit_of_head_dropWhile (h : ∀ d ∈ run, isSmall d) :
    ∀ d ∈ (run.dropWhile Char.isLower).head?, d.isDigit := by
  intro d hd
  have hl : ¬ d.isLower := by
    simpa [Option.mem_def.mp hd] using List.head?_dropWhile_not Char.isLower run
  exact isDigit_of_isSmall (h d ((List.dropWhile_suffix _).subset (List.mem_of_mem_head? hd))) hl

theorem raised_eq_iff (h : ∀ d ∈ run, isSmall d) : raised run = run ↔ LettersFirst run := by
  have hg : ∀ d ∈ run.dropWhile Char.isLower, isSmall d := fun d hd =>
    h d ((List.dropWhile_suffix _).subset hd)
  have hsplit : run.takeWhile Char.isLower ++ run.dropWhile Char.isLower = run :=
    List.takeWhile_append_dropWhile
  constructor
  · intro he
    refine ⟨_, _, hsplit.symm, fun d => List.mem_takeWhile_imp, fun d hd => ?_⟩
    have hmap : (run.dropWhile Char.isLower).map Char.toUpper =
        (run.dropWhile Char.isLower).map id := by
      rw [List.map_id]
      exact List.append_cancel_left (he.trans hsplit.symm)
    exact (toUpper_eq_self_iff (hg d hd)).mp (List.map_inj_left.mp hmap d hd)
  · rintro ⟨letters, digits, rfl, hl, hd⟩
    have hmap : ((letters ++ digits).dropWhile Char.isLower).map Char.toUpper =
        (letters ++ digits).dropWhile Char.isLower := by
      rw [List.dropWhile_append_of_pos hl]
      refine (List.map_congr_left fun d hd' => ?_).trans (List.map_id _)
      exact toUpper_of_isDigit (hd d ((List.dropWhile_suffix _).subset hd'))
    rw [raised, hmap, hsplit]

/-- A run that opens with a digit is written as it stands there, behind whatever word. -/
theorem flatMap_capitalize_scan_of_isDigit (hc : c.isDigit) (h : ∀ d ∈ cs, d.isAlphanum) :
    (scan true (c :: cs)).flatMap capitalize = c :: cs := by
  have hs : isSmall c := by simp [isSmall, hc]
  have hcap : ¬ isCapital c := by simp [isCapital_eq_false hs]
  have hw : capitalize (c :: cs.takeWhile isSmall) = c :: cs.takeWhile isSmall := by
    rw [capitalize, toUpper_of_isDigit hc, map_toLower_of_small fun d => List.mem_takeWhile_imp]
  have hrest := flatMap_capitalize_scan (fun d hd => h d ((List.dropWhile_suffix _).subset hd))
    (isCapital_of_head_dropWhile h)
  rw [scan, if_neg hcap, if_pos hs, List.flatMap_cons, hw, hrest, List.cons_append,
    List.takeWhile_append_dropWhile]

section Run
variable {letters rest : List Char} (hl : ∀ d ∈ letters, d.isLower)
  (hr : ∀ d ∈ rest.head?, d.isDigit)
include hl hr

theorem openingCapitals_toUpper :
    openingCapitals ((letters ++ rest).map Char.toUpper) = letters.length := by
  have hcap : ∀ d ∈ letters.map Char.toUpper, isCapital d := by
    intro d hd
    obtain ⟨e, he, rfl⟩ := List.mem_map.mp hd
    have ha : e.isAlpha := by simp [Char.isAlpha, hl e he]
    rw [isCapital, Char.isUpper_toUpper_eq_isAlpha, ha]
  rw [openingCapitals, List.map_append, List.takeWhile_append_of_pos hcap,
    List.dropWhile_append_of_pos hcap]
  cases rest with
  | nil => simp
  | cons d rest =>
    have hd : d.isDigit := hr d rfl
    have hn : ¬ isCapital d := by simp [isCapital_eq_false (c := d) (by simp [isSmall, hd])]
    rw [List.map_cons, toUpper_of_isDigit hd, List.takeWhile_cons_of_neg hn,
      List.dropWhile_cons_of_neg hn]
    simp [not_isLower_of_isDigit hd]

/-- The name of a run in capitals. -/
theorem camelChars_scan_toUpper (hs : ∀ d ∈ rest, isSmall d) :
    camelChars (scan false ((letters ++ rest).map Char.toUpper)) =
      letters ++ rest.map Char.toUpper := by
  have hsmall : ∀ d ∈ letters, isSmall d := fun d hd => by simp [isSmall, hl d hd]
  have halnum : ∀ d ∈ rest.map Char.toUpper, d.isAlphanum := by
    intro d hd
    obtain ⟨e, he, rfl⟩ := List.mem_map.mp hd
    rw [isAlphanum_toUpper]
    exact isAlphanum_of_isSmall (hs e he)
  cases letters with
  | nil =>
    -- a run that opens with a digit is in camel case as it is
    cases rest with
    | nil =>
      rw [List.nil_append, List.map_nil, scan]
      rfl
    | cons d rest =>
      have hd : d.isDigit := hr d rfl
      rw [List.map_cons, toUpper_of_isDigit hd] at halnum
      have hcamel : IsCamel (String.ofList (d :: rest.map Char.toUpper)) :=
        ⟨d, _, String.toList_ofList, .inr hd, (List.forall_mem_cons.mp halnum).2⟩
      have hname := congrArg String.toList hcamel.lowerCamel_eq
      rw [lowerCamel, String.toList_ofList, String.toList_ofList] at hname
      rw [List.nil_append, List.map_cons, toUpper_of_isDigit hd]
      exact hname
  | cons c letters =>
    have ho := openingCapitals_toUpper hl hr
    have htail : (scan true (rest.map Char.toUpper)).flatMap capitalize =
        rest.map Char.toUpper := by
      cases rest with
      | nil => rw [List.map_nil, scan, List.flatMap_nil]
      | cons d rest =>
        have hd : d.isDigit := hr d rfl
        rw [List.map_cons, toUpper_of_isDigit hd] at halnum ⊢
        exact flatMap_capitalize_scan_of_isDigit hd (List.forall_mem_cons.mp halnum).2
    have hlen : ((c :: letters).map Char.toUpper).length = letters.length + 1 := by simp
    have hback : ((c :: letters).map Char.toUpper).map Char.toLower = c :: letters := by
      simp only [List.map_map, Function.comp_def, Char.toLower_toUpper_eq_toLower]
      exact map_toLower_of_small hsmall
    rw [scan_of_opening ho, List.map_append, List.take_left' hlen, List.drop_left' hlen, camelChars,
      htail, hback]

end Run

theorem camelChars_scan_upperName (h : ∀ d ∈ run, isSmall d) :
    camelChars (scan false (Text.upperName run)) = raised run := by
  have hl : ∀ d ∈ run.takeWhile Char.isLower, d.isLower := fun d => List.mem_takeWhile_imp
  have hs : ∀ d ∈ run.dropWhile Char.isLower, isSmall d := fun d hd =>
    h d ((List.dropWhile_suffix _).subset hd)
  have hname := camelChars_scan_toUpper hl (isDigit_of_head_dropWhile h) hs
  rwa [List.takeWhile_append_dropWhile, ← upperName_of_small h] at hname

/-! ## All runs -/

theorem mem_runs (h : run ∈ runs cs) : run ≠ [] ∧ ∀ d ∈ run, d ∈ cs ∧ d.isAlphanum := by
  induction cs using text_induction with
  | hrun cs ha =>
    rw [runs_of_alphanum ha] at h
    split_ifs at h with hn
    · cases h
    · cases List.mem_singleton.mp h
      exact ⟨hn, fun d hd => ⟨hd, ha d hd⟩⟩
  | hsep front c back hc hf hb =>
    rw [runs_append_separator hc] at h
    rcases List.mem_append.mp h with h | h
    · obtain ⟨hn, hd⟩ := hf h
      exact ⟨hn, fun d hm => ⟨List.mem_append_left _ (hd d hm).1, (hd d hm).2⟩⟩
    · obtain ⟨hn, hd⟩ := hb h
      have hm : ∀ d ∈ back, d ∈ front ++ c :: back := fun d hm =>
        List.mem_append_right _ (List.mem_cons_of_mem _ hm)
      exact ⟨hn, fun d hr => ⟨hm d (hd d hr).1, (hd d hr).2⟩⟩

theorem scan_flatMap_runs (cs : List Char) : scan false cs = (runs cs).flatMap (scan false) := by
  rw [scan_eq_flatMap_runs]
  exact List.flatMap_congr fun run hr =>
    (scan_run fun d hd => ((mem_runs hr).2 d hd).2).symm

theorem runs_upperName (h : ∀ d ∈ cs, isSmall d ∨ d = '_') :
    runs (Text.upperName cs) = (runs cs).map Text.upperName := by
  induction cs using text_induction with
  | hrun cs ha =>
    have hu : ∀ d ∈ Text.upperName cs, d.isAlphanum := by
      intro d hd
      obtain ⟨e, he, rfl⟩ := List.mem_map.mp hd
      rw [isAlphanum_capital (h e he), ha e he]
    rw [runs_of_alphanum ha, runs_of_alphanum hu]
    cases cs <;> rfl
  | hsep front c back hc hf hb =>
    rw [List.forall_mem_append, List.forall_mem_cons] at h
    have hu : (Text.capital c).isAlphanum = false := (isAlphanum_capital h.2.1).trans hc
    have hsplit : Text.upperName (front ++ c :: back) =
        Text.upperName front ++ Text.capital c :: Text.upperName back := by
      simp [Text.upperName]
    rw [hsplit, runs_append_separator hu, runs_append_separator hc, hf h.1, hb h.2.2,
      List.map_append]

theorem flatMap_capitalize_eq {ws : List (List Char)} (h : ∀ w ∈ ws, w ≠ []) :
    ws.flatMap capitalize = (camelChars ws).modifyHead Char.toUpper := by
  cases ws with
  | nil => rfl
  | cons w ws =>
    obtain ⟨c, cs, rfl⟩ := List.exists_cons_of_ne_nil (h w List.mem_cons_self)
    simp [camelChars, capitalize]

/-- The name of a text from the names of its parts. -/
theorem camelChars_flatMap {parts : List (List Char)} {f : List Char → List (List Char)}
    (hn : ∀ p ∈ parts, f p ≠ []) (hw : ∀ p ∈ parts, ∀ w ∈ f p, w ≠ []) :
    camelChars (parts.flatMap f) = camelRuns (parts.map fun p => camelChars (f p)) := by
  cases parts with
  | nil => rfl
  | cons p parts =>
    rw [List.forall_mem_cons] at hn hw
    obtain ⟨w, ws, hp⟩ := List.exists_cons_of_ne_nil hn.1
    have hback : (parts.flatMap f).flatMap capitalize =
        (parts.map fun p => camelChars (f p)).flatMap (List.modifyHead Char.toUpper) := by
      rw [List.flatMap_assoc, List.flatMap_map]
      exact List.flatMap_congr fun p hp => flatMap_capitalize_eq (hw.2 p hp)
    rw [List.flatMap_cons, List.map_cons, camelRuns, ← hback, hp, List.cons_append, camelChars,
      camelChars, List.flatMap_append, List.append_assoc]

theorem length_raised (run : List Char) : (raised run).length = run.length := by
  rw [raised, List.length_append, List.length_map, ← List.length_append,
    List.takeWhile_append_dropWhile]

theorem head?_raised (h : ∀ d ∈ run, isSmall d) : (raised run).head? = run.head? := by
  cases run with
  | nil => rfl
  | cons c cs =>
    by_cases hl : c.isLower
    · simp [raised, hl]
    · have hd : c.isDigit := isDigit_of_isSmall (h c List.mem_cons_self) hl
      simp [raised, hl, toUpper_of_isDigit hd]

theorem eq_of_modifyHead_eq {xs ys : List Char} {g : Char → Char} (hh : xs.head? = ys.head?)
    (h : xs.modifyHead g = ys.modifyHead g) : xs = ys := by
  cases xs with
  | nil =>
    cases ys with
    | nil => rfl
    | cons y ys => cases hh
  | cons x xs =>
    cases ys with
    | nil => cases hh
    | cons y ys =>
      cases hh
      exact congrArg (x :: ·) (List.cons.inj h).2

section Parts
variable {parts : List (List Char)} {f : List Char → List Char}

theorem eq_of_flatMap_modifyHead {g : Char → Char} (hl : ∀ p ∈ parts, (f p).length = p.length)
    (hh : ∀ p ∈ parts, (f p).head? = p.head?)
    (h : (parts.map f).flatMap (List.modifyHead g) = parts.flatMap (List.modifyHead g)) :
    ∀ p ∈ parts, f p = p := by
  induction parts with
  | nil => simp
  | cons p parts ih =>
    rw [List.forall_mem_cons] at hl hh
    rw [List.map_cons, List.flatMap_cons, List.flatMap_cons] at h
    have hlen : ((f p).modifyHead g).length = (p.modifyHead g).length := by
      simpa using hl.1
    obtain ⟨hp, hparts⟩ := List.append_inj h hlen
    exact List.forall_mem_cons.mpr ⟨eq_of_modifyHead_eq hh.1 hp, ih hl.2 hh.2 hparts⟩

/-- If no part changes its length or its first character, a change of any part shows. -/
theorem camelRuns_map_eq_iff (hl : ∀ p ∈ parts, (f p).length = p.length)
    (hh : ∀ p ∈ parts, (f p).head? = p.head?) :
    camelRuns (parts.map f) = camelRuns parts ↔ ∀ p ∈ parts, f p = p := by
  constructor
  · intro h
    cases parts with
    | nil => simp
    | cons p parts =>
      rw [List.forall_mem_cons] at hl hh
      obtain ⟨hp, hparts⟩ := List.append_inj h hl.1
      exact List.forall_mem_cons.mpr ⟨hp, eq_of_flatMap_modifyHead hl.2 hh.2 hparts⟩
  · intro h
    have hm : parts.map f = parts := (List.map_congr_left h).trans (List.map_id _)
    rw [hm]

end Parts

/-! ## Names of tags -/

theorem IsSmallTag.small (h : IsSmallTag tag) (hr : run ∈ runs tag.toList) :
    ∀ d ∈ run, isSmall d := by
  intro d hd
  obtain ⟨hm, ha⟩ := (mem_runs hr).2 d hd
  rcases h d hm with hs | rfl
  · exact hs
  · cases ha

theorem IsSmallTag.lowerCamel_eq (h : IsSmallTag tag) :
    (lowerCamel tag).toList = camelRuns (runs tag.toList) := by
  have hw : ∀ r ∈ runs tag.toList, scan false r = [r] := fun r hr =>
    scan_small (mem_runs hr).1 (h.small hr)
  have hname : (runs tag.toList).map (fun r => camelChars (scan false r)) = runs tag.toList := by
    refine (List.map_congr_left fun r hr => ?_).trans (List.map_id _)
    rw [hw r hr, camelChars, map_toLower_of_small (h.small hr), List.flatMap_nil, List.append_nil]
    rfl
  rw [lowerCamel, String.toList_ofList, scan_flatMap_runs, camelChars_flatMap, hname]
  · intro r hr
    rw [hw r hr]
    exact List.cons_ne_nil _ _
  · exact fun r _ w => not_isEmpty_of_mem_scan

/-- In capitals, the letters behind a digit come out as capitals. -/
theorem IsSmallTag.lowerCamel_upper (h : IsSmallTag tag) :
    (lowerCamel (upper tag)).toList = camelRuns ((runs tag.toList).map raised) := by
  have hname : (runs tag.toList).map (fun r => camelChars (scan false (Text.upperName r))) =
      (runs tag.toList).map raised :=
    List.map_congr_left fun r hr => camelChars_scan_upperName (h.small hr)
  rw [lowerCamel, upper, String.toList_ofList, String.toList_ofList, scan_flatMap_runs,
    runs_upperName h, List.flatMap_map, camelChars_flatMap, hname]
  · intro r hr hn
    have hempty : raised r = [] := by
      rw [← camelChars_scan_upperName (h.small hr), hn]
      rfl
    have hlen : r.length = 0 := by
      rw [← length_raised, hempty]
      rfl
    exact (mem_runs hr).1 (List.eq_nil_of_length_eq_zero hlen)
  · exact fun r _ w => not_isEmpty_of_mem_scan

theorem IsSmallTag.lower_lowerCamel_upper (h : IsSmallTag tag) :
    Text.lower (lowerCamel (upper tag)) = Text.lower (lowerCamel tag) := by
  have hfilter : (upper tag).toList.filter Char.isAlphanum =
      (tag.toList.filter Char.isAlphanum).map Text.capital := by
    rw [upper, String.toList_ofList, Text.upperName, List.filter_map]
    exact congrArg _ (List.filter_congr fun d hd => isAlphanum_capital (h d hd))
  rw [Text.lower, Text.lower, lowerCamel_map_toLower, lowerCamel_map_toLower, hfilter, List.map_map]
  refine congrArg _ (List.map_congr_left fun d hd => ?_)
  exact toLower_capital (h d (List.mem_filter.mp hd).1)

/-- A tag has the same name in capitals exactly if the letters of each of its words stand before the
digits. In any case the two names differ in the case of letters only. -/
theorem upper_lowerCamel_eq_iff (h : IsSmallTag tag) :
    (lowerCamel (upper tag) = lowerCamel tag ↔ ∀ run ∈ runs tag.toList, LettersFirst run) ∧
    Text.lower (lowerCamel (upper tag)) = Text.lower (lowerCamel tag) := by
  refine ⟨?_, h.lower_lowerCamel_upper⟩
  have hl : ∀ r ∈ runs tag.toList, (raised r).length = r.length := fun r _ => length_raised r
  have hh : ∀ r ∈ runs tag.toList, (raised r).head? = r.head? := fun r hr =>
    head?_raised (h.small hr)
  rw [← String.toList_inj, h.lowerCamel_upper, h.lowerCamel_eq, camelRuns_map_eq_iff hl hh]
  exact forall₂_congr fun r hr => raised_eq_iff (h.small hr)

theorem so_mark2_upper :
    IsSmallTag "so_mark2" ∧ (∀ run ∈ runs "so_mark2".toList, LettersFirst run) ∧
      lowerCamel (upper "so_mark2") = lowerCamel "so_mark2" := by
  have ht : IsSmallTag "so_mark2" := by decide
  have hr : runs "so_mark2".toList = [['s', 'o'], ['m', 'a', 'r', 'k', '2']] := by decide +kernel
  have hl : ∀ run ∈ runs "so_mark2".toList, LettersFirst run := by
    rw [hr]
    intro run hrun
    rcases List.mem_pair.mp hrun with rfl | rfl
    · exact ⟨['s', 'o'], [], rfl, List.all_eq_true.mp (by decide), by simp⟩
    · exact ⟨['m', 'a', 'r', 'k'], ['2'], rfl, List.all_eq_true.mp (by decide),
        List.all_eq_true.mp (by decide)⟩
  exact ⟨ht, hl, (upper_lowerCamel_eq_iff ht).1.mpr hl⟩

/-- A word that opens with a digit keeps its capital, since a name of two words may look like it. -/
theorem digit_keeps_capital :
    IsSmallTag "1a" ∧ lowerCamel (upper "1a") ≠ lowerCamel "1a" ∧
      lowerCamel (upper "1a") = lowerCamel "1_a" := by
  refine ⟨by decide, ?_, ?_⟩
  · decide +kernel
  · decide +kernel

end RecordSchema.Name
