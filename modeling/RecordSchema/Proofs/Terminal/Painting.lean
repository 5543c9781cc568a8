import RecordSchema.Proofs.Terminal.Plain

/-! # Painted texts

A text without escapes is painted by control sequences around each of its lines and by nothing else.
They are complete, so dropping the control sequences again leaves the text as it was.
-/
namespace RecordSchema

namespace Text

/-- Where a character does not occur, nothing that begins with it is replaced. -/
theorem replaceAll_of_not_mem {c : Char} {old new cs : List Char} (h : c ∉ cs) :
    replaceAll (c :: old) new cs = cs := by
  unfold replaceAll
  induction cs with
  | nil => rfl
  | cons d cs ih =>
    obtain ⟨hd, hcs⟩ := not_or.mp (List.mem_cons.not.mp h)
    have hp : (c :: old).isPrefixOf (d :: cs) = false := by
      simp [List.isPrefixOf, hd]
    rw [replaceAll.go, if_neg (by simp [hp]), ih hcs]

end Text

namespace Terminal
variable {p : Paint} {opening closing cs rest : List Char} {s : String}

/-! ## Texts without escapes -/

theorem rendition_eq (n : Nat) :
    rendition n = escape :: '[' :: (Nat.toDigits 10 n ++ ['m']) := by
  simp [rendition, renditions]

theorem reopen_eq_self (h : escape ∉ cs) : reopen p cs = cs := by
  unfold reopen
  induction p with
  | nil => rfl
  | cons c p ih =>
    rw [List.foldl_cons, rendition_eq, Text.replaceAll_of_not_mem h, ih]

theorem resetPiece?_eq_none (h : escape ∉ cs) : resetPiece? cs = none := by
  have hf : Text.dropFront? reset cs = none := by
    cases cs with
    | nil => rfl
    | cons c cs =>
      have hc : escape ≠ c := fun he => h (he ▸ List.mem_cons_self)
      rw [reset, rendition_eq, Text.dropFront?, if_neg hc]
  rw [resetPiece?, hf, Option.bind_none]

theorem sparePieces_eq_self (h : escape ∉ cs) : sparePieces opening closing cs 0 = cs := by
  induction cs with
  | nil => rfl
  | cons c cs ih =>
    have hcs : escape ∉ cs := fun hm => h (List.mem_cons_of_mem _ hm)
    rw [sparePieces, resetPiece?_eq_none h]
    exact congrArg _ (ih hcs)

theorem paintLines_eq_self (h : '\n' ∉ cs) : paintLines opening closing cs = cs := by
  fun_induction paintLines opening closing cs with
  | case1 => rfl
  | case2 cs ih => simp at h
  | case3 cs ih => simp at h
  | case4 c cs _ _ ih => rw [ih fun hm => h (List.mem_cons_of_mem _ hm)]

theorem chars_of_plain (h : escape ∉ cs) :
    p.chars cs = p.opening ++ paintLines p.opening p.closing cs ++ p.closing := by
  rw [Paint.chars, reopen_eq_self h, sparePieces_eq_self h]

/-- A single line stands between the codes. -/
theorem apply_of_line (h : IsPlain s) (hn : '\n' ∉ s.toList) :
    p.apply s = String.ofList p.opening ++ s ++ String.ofList p.closing := by
  rw [Paint.apply, chars_of_plain h, paintLines_eq_self hn, String.ofList_append,
    String.ofList_append, String.ofList_toList]

/-! ## Dropping the control sequences -/

theorem plainFrom_skip (cs rest : List Char) :
    plainFrom (cs ++ rest) cs.length = plainFrom rest 0 := by
  induction cs with
  | nil => rfl
  | cons c cs ih => rw [List.cons_append, List.length_cons, plainFrom, ih]

theorem isParameter_of_isDigit {c : Char} (h : c.isDigit = true) : isParameter c = true := by
  obtain ⟨hl, hu⟩ := Char.isDigit_iff_toNat.mp h
  have hm : c.toNat ≤ '?'.toNat := Nat.le_trans hu (by decide)
  have h0 : '0' ≤ c := UInt32.le_iff_toNat_le.mpr hl
  have h9 : c ≤ '?' := UInt32.le_iff_toNat_le.mpr hm
  rw [isParameter, isBetween, decide_eq_true h0, decide_eq_true h9, Bool.and_self]

theorem plainFrom_rendition (n : Nat) (rest : List Char) :
    plainFrom (rendition n ++ rest) 0 = plainFrom rest 0 := by
  -- the digits are parameters, and the letter behind them is final
  let digits := Nat.toDigits 10 n
  have hd : ∀ c ∈ digits, isParameter c = true := fun c hc =>
    isParameter_of_isDigit (Nat.isDigit_of_mem_toDigits (by decide) (by decide) hc)
  have ht : sequenceTail? ('[' :: (digits ++ ['m'] ++ rest)) = some (digits.length + 2) := by
    have hp : (digits ++ 'm' :: rest).takeWhile isParameter = digits := by
      rw [List.takeWhile_append_of_pos hd, List.takeWhile_cons_of_neg (by decide),
        List.append_nil]
    have hr : (digits ++ 'm' :: rest).dropWhile isParameter = 'm' :: rest := by
      rw [List.dropWhile_append_of_pos hd, List.dropWhile_cons_of_neg (by decide)]
    rw [List.append_assoc, List.singleton_append, sequenceTail?, hp, hr]
    rfl
  have hl : digits.length + 2 = ('[' :: (digits ++ ['m'])).length := by simp
  rw [rendition_eq, List.cons_append, List.cons_append, plainFrom, if_pos rfl, ht, hl]
  exact plainFrom_skip ('[' :: (digits ++ ['m'])) rest

theorem plainFrom_renditions {f : Code → Nat} (p : Paint) (rest : List Char) :
    plainFrom ((p.flatMap fun c => rendition (f c)) ++ rest) 0 = plainFrom rest 0 := by
  induction p with
  | nil => rfl
  | cons c p ih => rw [List.flatMap_cons, List.append_assoc, plainFrom_rendition, ih]

theorem plainFrom_opening (p : Paint) (rest : List Char) :
    plainFrom (p.opening ++ rest) 0 = plainFrom rest 0 := plainFrom_renditions p rest

theorem plainFrom_closing (p : Paint) (rest : List Char) :
    plainFrom (p.closing ++ rest) 0 = plainFrom rest 0 := plainFrom_renditions p rest

theorem plainFrom_paintLines (h : escape ∉ cs) :
    plainFrom (paintLines p.opening p.closing cs ++ rest) 0 = cs ++ plainFrom rest 0 := by
  -- both kinds of line ends have the closing codes in front and the opening codes behind
  fun_induction paintLines p.opening p.closing cs with
  | case1 => rfl
  | case2 cs ih =>
    have hcs : escape ∉ cs := fun hm => h (by simp [hm])
    rw [List.append_assoc, plainFrom_closing, List.cons_append, List.cons_append,
      plainFrom_cons (by decide), plainFrom_cons (by decide), List.append_assoc,
      plainFrom_opening, ih hcs]
    rfl
  | case3 cs ih =>
    have hcs : escape ∉ cs := fun hm => h (by simp [hm])
    rw [List.append_assoc, plainFrom_closing, List.cons_append, plainFrom_cons (by decide),
      List.append_assoc, plainFrom_opening, ih hcs]
    rfl
  | case4 c cs _ _ ih =>
    obtain ⟨hc, hcs⟩ := not_or.mp (List.mem_cons.not.mp h)
    rw [List.cons_append, plainFrom_cons (Ne.symm hc), ih hcs, List.cons_append]

/-- What is painted shows through whatever the paint. -/
theorem plain_apply_append (p : Paint) (h : IsPlain s) (rest : String) :
    plain (p.apply s ++ rest) = s ++ plain rest := by
  rw [plain, plain, String.toList_append, Paint.apply, String.toList_ofList, chars_of_plain h,
    List.append_assoc, List.append_assoc, plainFrom_opening, plainFrom_paintLines h,
    plainFrom_closing, String.ofList_append, String.ofList_toList]

end Terminal

end RecordSchema
