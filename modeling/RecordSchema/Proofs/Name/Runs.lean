import RecordSchema.Proofs.Name.Letters
import RecordSchema.Proofs.Text.Cut

/-! # Words run by run

The words of a text are those of its runs of ASCII letters and digits. Of a run, the capitals that
open it are a word of their own as far as no lower-case letter follows them; what is left is cut
before every capital and nowhere else.
-/
namespace RecordSchema.Name
open Text (takeWhile_append_stop dropWhile_append_stop)
variable {c : Char} {cs run : List Char} {inside : Bool}

/-- The runs of letters and digits between the other characters. -/
def runs (text : List Char) : List (List Char) :=
  (text.splitOnP fun c => !c.isAlphanum).filter fun run => !run.isEmpty

/-- The pieces of a run, each but the first of which begins with a capital. -/
def cutBeforeCapitals (run : List Char) : List (List Char) :=
  run.splitBy fun _ c => !c.isUpper

/-- How many of the capitals that open a run form a word of their own, if any do. -/
def openingWord? (run : List Char) : Option Nat :=
  let k := (run.takeWhile Char.isUpper).length
  let followed := (run.dropWhile Char.isUpper).head?.any Char.isLower
  if 1 ≤ k ∧ !followed then some k
  else if 2 ≤ k ∧ followed then some (k - 1)
  else none

def wordsOfRun (run : List Char) : List (List Char) :=
  match openingWord? run with
  | some n => run.take n :: cutBeforeCapitals (run.drop n)
  | none => cutBeforeCapitals run

/-! ## Inside a run -/

theorem not_isDigit_of_isUpper (h : c.isUpper) : ¬ c.isDigit := by
  simp only [Char.isUpper, Char.isDigit, Bool.and_eq_true, decide_eq_true_eq,
    UInt32.le_iff_toNat_le, ge_iff_le] at h ⊢
  have hnine : '9'.val.toNat = 57 := rfl
  have hcap : 'A'.val.toNat = 65 := rfl
  omega

theorem isCapital_eq_false (h : isSmall c) : isCapital c = false := by
  have hn : ¬ isCapital c := by
    intro hc
    rcases Bool.or_eq_true_iff.mp h with h | h
    · exact Char.not_isLower_of_isUpper hc h
    · exact not_isDigit_of_isUpper hc h
  simpa using hn

theorem isSmall_of_isAlphanum (h : c.isAlphanum) (hc : ¬ isCapital c) : isSmall c := by
  by_contra hs
  rw [isAlphanum_eq_false hc hs] at h
  cases h

/-- Small letters and digits are followed by a capital, if by anything. -/
theorem isCapital_of_head_dropWhile (h : ∀ d ∈ cs, d.isAlphanum) :
    ∀ d ∈ (cs.dropWhile isSmall).head?, isCapital d := by
  intro d hd
  have hs : isSmall d = false := by
    simpa [Option.mem_def.mp hd] using List.head?_dropWhile_not isSmall cs
  by_contra hc
  have ha := h d ((List.dropWhile_suffix _).subset (List.mem_of_mem_head? hd))
  rw [isSmall_of_isAlphanum ha hc] at hs
  cases hs

/-- A piece goes on as long as small letters and digits follow. -/
theorem cutBeforeCapitals_cons (c : Char) (h : ∀ d ∈ cs, d.isAlphanum) :
    cutBeforeCapitals (c :: cs) =
      (c :: cs.takeWhile isSmall) :: cutBeforeCapitals (cs.dropWhile isSmall) := by
  have hp : (c :: cs.takeWhile isSmall).Pairwise fun _ d => (!d.isUpper) = true := by
    have hs : ∀ d ∈ cs.takeWhile isSmall, (!d.isUpper) = true := fun d hd =>
      congrArg not (isCapital_eq_false (List.mem_takeWhile_imp hd))
    exact List.pairwise_cons.mpr ⟨hs, List.pairwise_of_forall_mem_list fun _ _ d hd => hs d hd⟩
  have hw : cutBeforeCapitals (c :: cs.takeWhile isSmall) = [c :: cs.takeWhile isSmall] :=
    List.splitBy_of_isChain (List.cons_ne_nil _ _) hp.isChain
  have hsplit : c :: cs = (c :: cs.takeWhile isSmall) ++ cs.dropWhile isSmall := by
    rw [List.cons_append, List.takeWhile_append_dropWhile]
  have hcut : ∀ x ∈ (c :: cs.takeWhile isSmall).getLast?, ∀ d ∈ (cs.dropWhile isSmall).head?,
      (!d.isUpper) = false := fun _ _ d hd =>
    congrArg not (isCapital_of_head_dropWhile h d hd)
  rw [hsplit]
  exact (List.splitBy_append hcut).trans (congrArg (· ++ _) hw)

/-- Behind a letter or digit, every capital begins a word. -/
theorem scan_true (h : ∀ d ∈ cs, d.isAlphanum) : scan true cs = cutBeforeCapitals cs := by
  have hgen : ∀ inside, inside = true → scan inside cs = cutBeforeCapitals cs := by
    intro inside hi
    fun_induction scan inside cs with
    | case1 => rfl
    | case2 inside c cs hc n hn ih =>
      obtain ⟨-, h⟩ := List.forall_mem_cons.mp h
      rw [cutBeforeCapitals_cons c h, ih (fun d hd => h d ((List.dropWhile_suffix _).subset hd)) rfl]
    | case3 inside c cs hc n hn ih => exact absurd (.inl hi) hn
    | case4 inside c cs hc hs ih =>
      obtain ⟨-, h⟩ := List.forall_mem_cons.mp h
      rw [cutBeforeCapitals_cons c h, ih (fun d hd => h d ((List.dropWhile_suffix _).subset hd)) rfl]
    | case5 inside c cs hc hs ih =>
      obtain ⟨ha, -⟩ := List.forall_mem_cons.mp h
      exact absurd (isSmall_of_isAlphanum ha hc) hs
  exact hgen true rfl

/-! ## Between runs -/

theorem not_letter_of_separator (hc : c.isAlphanum = false) :
    isCapital c = false ∧ isSmall c = false ∧ c.isLower = false := by
  simp only [Char.isAlphanum, Char.isAlpha, Bool.or_eq_false_iff] at hc
  exact ⟨hc.1.1, Bool.or_eq_false_iff.mpr ⟨hc.1.2, hc.2⟩, hc.1.2⟩

theorem openingCapitals_append (hc : c.isAlphanum = false) (cs rest : List Char) :
    openingCapitals (cs ++ c :: rest) = openingCapitals cs := by
  obtain ⟨hcap, -, hlow⟩ := not_letter_of_separator hc
  rw [openingCapitals, openingCapitals, takeWhile_append_stop hcap, dropWhile_append_stop hcap]
  cases cs.dropWhile isCapital with
  | nil => simp [hlow]
  | cons d ds => rfl

/-- A character that is no letter or digit ends a word, and what follows it is cut on its own. -/
theorem scan_append_separator (hc : c.isAlphanum = false) (inside : Bool) (cs rest : List Char) :
    scan inside (cs ++ c :: rest) = scan inside cs ++ scan false rest := by
  obtain ⟨hcap, hsmall, -⟩ := not_letter_of_separator hc
  fun_induction scan inside cs with
  | case1 inside =>
    rw [List.nil_append, scan, if_neg (by simp [hcap]), if_neg (by simp [hsmall])]
    rfl
  | case2 inside d cs hd n hn ih =>
    have ho : openingCapitals (d :: (cs ++ c :: rest)) = n := openingCapitals_append hc (d :: cs) rest
    rw [List.cons_append, scan, if_pos hd, ho]
    show (if inside ∨ n = 0 then _ else _) = _
    rw [if_pos hn, takeWhile_append_stop hsmall, dropWhile_append_stop hsmall, ih, List.cons_append]
  | case3 inside d cs hd n hn ih =>
    have ho : openingCapitals (d :: (cs ++ c :: rest)) = n := openingCapitals_append hc (d :: cs) rest
    have hle : n - 1 ≤ cs.length := by
      have := (openingCapitals_le (d :: cs)).trans (List.takeWhile_prefix _).length_le
      rw [List.length_cons] at this
      omega
    rw [List.cons_append, scan, if_pos hd, ho]
    show (if inside ∨ n = 0 then _ else _) = _
    rw [if_neg hn, List.take_append_of_le_length hle, List.drop_append_of_le_length hle, ih,
      List.cons_append]
  | case4 inside d cs hd hs ih =>
    rw [List.cons_append, scan, if_neg hd, if_pos hs, takeWhile_append_stop hsmall,
      dropWhile_append_stop hsmall, ih, List.cons_append]
  | case5 inside d cs hd hs ih =>
    rw [List.cons_append, scan, if_neg hd, if_neg hs, ih]

theorem runs_append_separator (hc : c.isAlphanum = false) (cs rest : List Char) :
    runs (cs ++ c :: rest) = runs cs ++ runs rest := by
  rw [runs, List.splitOnP_append_cons cs rest (by simp [hc]), List.filter_append]
  rfl

theorem runs_of_alphanum (h : ∀ d ∈ run, d.isAlphanum) :
    runs run = if run = [] then [] else [run] := by
  have hs : run.splitOnP (fun c => !c.isAlphanum) = [run] :=
    List.splitOnP_eq_singleton fun d hd => by simp [h d hd]
  rw [runs, hs]
  cases run <;> rfl

/-! ## The first word of a run -/

theorem openingWord?_eq (run : List Char) :
    openingWord? run =
      if openingCapitals run = 0 then none else some (openingCapitals run) := by
  have hf : openingCapitals run = if (run.dropWhile Char.isUpper).head?.any Char.isLower then
      (run.takeWhile Char.isUpper).length - 1 else (run.takeWhile Char.isUpper).length := by
    have hcap : isCapital = Char.isUpper := rfl
    rw [openingCapitals, hcap]
    cases run.dropWhile Char.isUpper <;> rfl
  rw [openingWord?, hf]
  cases (run.dropWhile Char.isUpper).head?.any Char.isLower with
  | false =>
    by_cases hk : (run.takeWhile Char.isUpper).length = 0
    · simp [hk]
    · have hk' : 1 ≤ (run.takeWhile Char.isUpper).length := by omega
      simp only [Bool.not_false, and_true, if_pos hk', Bool.false_eq_true, if_false, if_neg hk]
  | true =>
    by_cases hk : (run.takeWhile Char.isUpper).length - 1 = 0
    · have hk' : ¬ 2 ≤ (run.takeWhile Char.isUpper).length := by omega
      simp [hk, hk']
    · have hk' : 2 ≤ (run.takeWhile Char.isUpper).length := by omega
      simp [hk, hk']

/-- Without an opening word it makes no difference what stands before a run. -/
theorem scan_of_no_opening (h : openingCapitals run = 0) :
    scan false run = scan true run := by
  cases run with
  | nil => rw [scan, scan]
  | cons c cs =>
    rw [scan, scan]
    simp only [h, or_true, if_true]

theorem scan_of_opening {n : Nat} (h : openingCapitals run = n + 1) :
    scan false run = run.take (n + 1) :: scan true (run.drop (n + 1)) := by
  cases run with
  | nil => cases h
  | cons c cs =>
    have hc : isCapital c := by
      by_contra hc
      have hle := openingCapitals_le (c :: cs)
      rw [h, List.takeWhile_cons_of_neg hc] at hle
      cases hle
    rw [scan, if_pos hc, h]
    rfl

/-- A run is cut by the rule for its first word and before the capitals behind it. -/
theorem scan_run (h : ∀ d ∈ run, d.isAlphanum) : scan false run = wordsOfRun run := by
  rw [wordsOfRun, openingWord?_eq]
  cases hn : openingCapitals run with
  | zero => rw [scan_of_no_opening hn, scan_true h]; rfl
  | succ n =>
    rw [scan_of_opening hn, scan_true fun d hd => h d (List.mem_of_mem_drop hd)]
    rfl

theorem not_isEmpty_of_mem_scan {w : List Char} (h : w ∈ scan inside cs) : w ≠ [] := by
  fun_induction scan inside cs with
  | case1 => cases h
  | case2 inside c cs hc n hn ih | case3 inside c cs hc n hn ih | case4 inside c cs hc hs ih =>
    rcases List.mem_cons.mp h with rfl | h
    · exact List.cons_ne_nil _ _
    · exact ih h
  | case5 inside c cs hc hs ih => exact ih h

/-- A text is a run, or two texts with another character between them. -/
theorem text_induction {P : List Char → Prop} (hrun : ∀ run, (∀ d ∈ run, d.isAlphanum) → P run)
    (hsep : ∀ front c back, c.isAlphanum = false → P front → P back → P (front ++ c :: back))
    (cs : List Char) : P cs := by
  by_cases h : ∀ d ∈ cs, d.isAlphanum
  · exact hrun cs h
  · obtain ⟨c, hm, hc⟩ : ∃ c ∈ cs, c.isAlphanum = false := by simpa using h
    obtain ⟨front, back, rfl⟩ := List.append_of_mem hm
    exact hsep front c back hc (text_induction hrun hsep front) (text_induction hrun hsep back)
termination_by cs.length
decreasing_by
  all_goals
    subst_vars
    simp only [List.length_append, List.length_cons]
    omega

/-- A text is cut run by run. -/
theorem scan_eq_flatMap_runs (cs : List Char) : scan false cs = (runs cs).flatMap wordsOfRun := by
  induction cs using text_induction with
  | hrun cs ha =>
    rw [runs_of_alphanum ha, scan_run ha]
    split_ifs with hn
    · rw [hn]
      rfl
    · exact (List.flatMap_singleton ..).symm
  | hsep front c back hc hf hb =>
    rw [scan_append_separator hc, runs_append_separator hc, List.flatMap_append, hf, hb]

/-- The words of a text are those of its runs, in order. They hold its letters and digits and
nothing else, none of them is empty, and any other character may be cut out. -/
theorem words_run_by_run (name : String) :
    words name = ((runs name.toList).flatMap wordsOfRun).map String.ofList ∧
    String.join (words name) = String.ofList (name.toList.filter Char.isAlphanum) ∧
    "" ∉ words name ∧
    ∀ (front back : String) (c : Char), c.isAlphanum = false →
      words (front ++ String.singleton c ++ back) = words front ++ words back := by
  refine ⟨?_, ?_, ?_, fun front back c hc => ?_⟩
  · rw [words, scan_eq_flatMap_runs]
  · rw [← String.toList_inj, String.toList_join, String.toList_ofList, words, ← flatten_scan false]
    simp [List.flatMap_def]
  · intro h
    obtain ⟨w, hw, he⟩ := List.mem_map.mp h
    exact not_isEmpty_of_mem_scan hw (by simpa using he)
  · simp only [words, String.toList_append, String.toList_singleton, List.append_assoc,
      List.singleton_append, scan_append_separator hc, List.map_append]

/-- An accented letter stands between two acronyms: the capital before it is not taken for the
beginning of a word. -/
theorem words_of_accented :
    runs "tcpHTTPServer2_URLs".toList = ["tcpHTTPServer2".toList, "URLs".toList] ∧
    words "tcpHTTPServer2_URLs" = ["tcp", "H", "T", "T", "P", "Server2", "UR", "Ls"] ∧
    words "HTTPéServer" = words "HTTP" ++ words "Server" :=
  ⟨by decide +kernel, by decide +kernel,
    (words_run_by_run "HTTPéServer").2.2.2 "HTTP" "Server" 'é' (by decide)⟩

end RecordSchema.Name
