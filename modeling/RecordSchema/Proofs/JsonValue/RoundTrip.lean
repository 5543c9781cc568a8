import RecordSchema.Proofs.JsonValue.Reader

/-! # JSON that is read back

What is written of a value, on one line or over indented lines, is read as that value again. A
character is written as itself, as a short escape or as the one or two UTF-16 units of its code;
whichever it is, it comes back as one character.
-/
namespace RecordSchema.JsonValue
open Text (hex hexDigitValue?)
variable {c : Char} {cs rest : List Char}

/-! ## Characters -/

theorem hexDigitValue?_digitChar : ∀ d < 16, hexDigitValue? d.digitChar = some d := by decide

theorem hexNumber?_append_digit {digits : List Char} {n d : Nat} (h : hexNumber? digits = some n)
    (hd : d < 16) : hexNumber? (digits ++ [d.digitChar]) = some (n * 16 + d) := by
  have hv := hexDigitValue?_digitChar d hd
  rw [hexNumber?] at h
  simp [hexNumber?, List.foldlM_append, h, hv]

theorem hexNumber?_toDigits (n : Nat) : hexNumber? (Nat.toDigits 16 n) = some n := by
  induction n using Nat.strong_induction_on with
  | _ n ih =>
    rcases Nat.lt_or_ge n 16 with hn | hn
    · rw [Nat.toDigits_of_lt_base hn]
      have h : hexNumber? ([] ++ [n.digitChar]) = some (0 * 16 + n) :=
        hexNumber?_append_digit rfl hn
      simpa using h
    · have h := hexNumber?_append_digit (ih (n / 16) (by omega)) (Nat.mod_lt n (by decide))
      rw [Nat.toDigits_of_base_le (by decide) hn, h, Nat.div_add_mod']

theorem hexNumber?_zeros (k : Nat) (digits : List Char) :
    hexNumber? (List.replicate k '0' ++ digits) = hexNumber? digits := by
  induction k with
  | zero => rfl
  | succ k ih => exact ih

/-- A UTF-16 unit has four digits, which are read as the number they write. -/
theorem exists_hex {n : Nat} (hn : n < 0x10000) :
    ∃ a b c d, hex 4 n = [a, b, c, d] ∧ hexNumber? [a, b, c, d] = some n := by
  have hl : (Nat.toDigits 16 n).length ≤ 4 :=
    (Nat.length_toDigits_le_iff (by decide) (by decide)).mpr hn
  have hlen : (hex 4 n).length = 4 := by
    simp only [hex, List.length_append, List.length_replicate]
    omega
  have hr : hexNumber? (hex 4 n) = some n := by
    rw [hex, hexNumber?_zeros, hexNumber?_toDigits]
  generalize hex 4 n = digits at hlen hr
  match digits, hlen with
  | [a, b, c, d], _ => exact ⟨a, b, c, d, rfl, hr⟩

/-- What reading takes for a character in front of `rest`. -/
def Reads (written : List Char) (units : List Nat) : Prop :=
  ∀ rest, readUnits (written ++ rest) = (readUnits rest).map fun (ns, cs) => (units ++ ns, cs)

theorem Reads.append {ws ws' : List Char} {us us' : List Nat} (h : Reads ws us)
    (h' : Reads ws' us') : Reads (ws ++ ws') (us ++ us') := by
  intro rest
  rw [List.append_assoc, h, h', Option.map_map]
  simp [Function.comp_def]

theorem reads_escapeUnit {n : Nat} (hn : n < 0x10000) : Reads (escapeUnit n) [n] := by
  intro rest
  obtain ⟨a, b, c, d, hh, hr⟩ := exists_hex hn
  rw [escapeUnit, hh]
  show readUnits ('\\' :: 'u' :: a :: b :: c :: d :: rest) = _
  rw [readUnits, hr]
  cases readUnits rest <;> rfl

theorem reads_short {e : Char} (he : e ≠ 'u') (h : escapes.lookup e = some c) :
    Reads ['\\', e] [c.toNat] := by
  intro rest
  show readUnits ('\\' :: e :: rest) = _
  rw [readUnits.eq_4 e rest fun _ _ _ _ _ hu _ => he hu, h]
  cases readUnits rest <;> rfl

theorem reads_plain (hq : c ≠ '\x22') (hb : c ≠ '\\') (hc : 0x20 ≤ c.toNat) :
    Reads [c] [c.toNat] := by
  intro rest
  show readUnits (c :: rest) = _
  rw [readUnits.eq_5 c rest hq (fun _ _ _ _ _ h _ => hb h) fun _ _ h _ => hb h,
    if_neg (Nat.not_lt.mpr hc)]
  cases readUnits rest <;> rfl

theorem toNat_lt (c : Char) : c.toNat < 0x110000 := by
  rcases c.valid with h | ⟨-, h⟩
  · exact h.trans (by decide)
  · exact h

/-- The UTF-16 units of a character. -/
def unitsOf (c : Char) : List Nat :=
  if c.toNat < 0x10000 then [c.toNat]
  else [0xd800 + (c.toNat - 0x10000) / 0x400, 0xdc00 + (c.toNat - 0x10000) % 0x400]

theorem shortEscapes_read : ∀ p ∈ shortEscapes, p.2 ≠ 'u' ∧ escapes.lookup p.2 = some p.1 ∧
    p.1.toNat < 0x10000 := by
  decide

/-- However a character is written, its units are read. -/
theorem reads_escapeChar (c : Char) : Reads (escapeChar c) (unitsOf c) := by
  unfold escapeChar
  cases h : shortEscapes.lookup c with
  | some e =>
    have hm : (c, e) ∈ shortEscapes := by
      obtain ⟨front, back, hs, -⟩ := List.lookup_eq_some_iff.mp h
      rw [hs]
      simp
    obtain ⟨hu, hl, hc⟩ := shortEscapes_read (c, e) hm
    rw [unitsOf, if_pos hc]
    exact reads_short hu hl
  | none =>
    have hn : ∀ p ∈ shortEscapes, c ≠ p.1 := by simpa using List.lookup_eq_none_iff.mp h
    by_cases hp : 0x20 ≤ c.toNat ∧ c.toNat < 0x7f
    · have hc : c.toNat < 0x10000 := by omega
      simp only [if_pos hp]
      rw [unitsOf, if_pos hc]
      exact reads_plain (hn _ (by decide : ('\x22', '\x22') ∈ shortEscapes))
        (hn _ (by decide : ('\\', '\\') ∈ shortEscapes)) hp.1
    · simp only [if_neg hp, escapeCode, unitsOf]
      have hv := toNat_lt c
      split_ifs with hc
      · exact reads_escapeUnit hc
      · exact (reads_escapeUnit (by omega)).append (reads_escapeUnit (by omega))

theorem character?_toNat (c : Char) : character? c.toNat = some c := by
  have hv : c.toNat.isValidChar := c.valid
  rw [character?, if_pos hv, Char.ofNat_toNat]

/-- The units of a character are one character again. -/
theorem joinUnits_unitsOf (c : Char) (ns : List Nat) :
    joinUnits (unitsOf c ++ ns) = (joinUnits ns).map (c :: ·) := by
  unfold unitsOf
  split_ifs with hc
  · cases ns with
    | nil => simp [joinUnits, character?_toNat]
    | cons n ns =>
      have hs : isPair c.toNat n = false := by
        have hv : c.toNat < 0xd800 ∨ 0xdfff < c.toNat := c.valid.imp id And.left
        simp only [isPair, Bool.and_eq_false_iff, decide_eq_false_iff_not]
        omega
      rw [List.singleton_append, joinUnits, if_neg (by simp [hs]), character?_toNat]
      cases joinUnits (n :: ns) <;> rfl
  · have hv := toNat_lt c
    generalize hh : 0xd800 + (c.toNat - 0x10000) / 0x400 = high
    generalize hl : 0xdc00 + (c.toNat - 0x10000) % 0x400 = low
    have hs : isPair high low = true := by
      simp only [isPair, Bool.and_eq_true, decide_eq_true_eq]
      omega
    have hn : 0x10000 + (high - 0xd800) * 0x400 + (low - 0xdc00) = c.toNat := by omega
    show joinUnits (high :: low :: ns) = _
    rw [joinUnits, if_pos hs, hn, character?_toNat]
    cases joinUnits ns <;> rfl

/-- A written text is read up to its closing quote. -/
theorem readText_append (cs rest : List Char) :
    readText (cs.flatMap escapeChar ++ '\x22' :: rest) = some (String.ofList cs, rest) := by
  have hr : readUnits (cs.flatMap escapeChar ++ '\x22' :: rest) =
      some (cs.flatMap unitsOf, rest) := by
    induction cs with
    | nil => rfl
    | cons c cs ih =>
      rw [List.flatMap_cons, List.append_assoc, reads_escapeChar c, ih]
      rfl
  have hj : joinUnits (cs.flatMap unitsOf) = some cs := by
    clear hr
    induction cs with
    | nil => rfl
    | cons c cs ih =>
      rw [List.flatMap_cons, joinUnits_unitsOf, ih]
      rfl
  simp [readText, hr, hj]

theorem toList_quotedText_append (s : String) (rest : List Char) :
    (quotedText s).toList ++ rest =
      '\x22' :: (s.toList.flatMap escapeChar ++ '\x22' :: rest) := by
  simp [quotedText]

/-! ## Numbers -/

/-- Behind a number stands no further digit. -/
def NoDigitAhead (rest : List Char) : Prop := ∀ c ∈ rest.head?, c.isDigit = false

theorem noDigitAhead_cons (h : c.isDigit = false) : NoDigitAhead (c :: cs) := by
  intro d hd
  obtain rfl : c = d := by simpa using hd
  exact h

theorem noDigitAhead_append {blanks : List Char} (hb : ∀ c ∈ blanks, isBlank c)
    (h : NoDigitAhead rest) : NoDigitAhead (blanks ++ rest) := by
  cases blanks with
  | nil => exact h
  | cons b bs =>
    have hd : b.isDigit = false := by
      have := hb b List.mem_cons_self
      simp only [isBlank, Bool.or_eq_true, beq_iff_eq] at this
      rcases this with ((rfl | rfl) | rfl) | rfl <;> rfl
    exact noDigitAhead_cons hd

theorem readNatural_append (n : Nat) (h : NoDigitAhead rest) :
    readNatural (n.repr.toList ++ rest) = some (n, rest) := by
  have hd : ∀ c ∈ Nat.toDigits 10 n, c.isDigit := fun c =>
    Nat.isDigit_of_mem_toDigits (by decide) (by decide)
  have ht : rest.takeWhile Char.isDigit = [] ∧ rest.dropWhile Char.isDigit = rest := by
    cases rest with
    | nil => exact ⟨rfl, rfl⟩
    | cons c rest => simp [h c rfl]
  rw [Nat.toList_repr, readNatural, List.takeWhile_append_of_pos hd, ht.1, List.append_nil,
    List.dropWhile_append_of_pos hd, ht.2, Nat.ofDigitChars_toDigits (by decide) (by decide)]
  exact if_pos rfl

/-- A natural number begins with a digit. -/
theorem exists_repr (n : Nat) : ∃ d ds, n.repr.toList = d :: ds ∧ d.isDigit := by
  obtain ⟨d, ds, h⟩ := List.exists_cons_of_ne_nil (Nat.toDigits_ne_nil (b := 10) (n := n))
  rw [Nat.toList_repr]
  exact ⟨d, ds, h, Nat.isDigit_of_mem_toDigits (by decide) (by decide) (h ▸ List.mem_cons_self)⟩

/-- A number begins with a digit or a sign. -/
theorem exists_number (n : Int) :
    ∃ c cs, (toString n).toList = c :: cs ∧ (c.isDigit ∨ c = '-') := by
  rw [Int.toString_eq_repr, Int.repr_eq_if]
  split_ifs
  · obtain ⟨d, ds, h, hd⟩ := exists_repr n.toNat
    exact ⟨d, ds, h, .inl hd⟩
  · exact ⟨'-', _, String.toList_append, .inr rfl⟩

theorem readNumber_append (n : Int) (h : NoDigitAhead rest) :
    readNumber ((toString n).toList ++ rest) = some (n, rest) := by
  rw [Int.toString_eq_repr, Int.repr_eq_if]
  split_ifs with hn
  · have hr := readNatural_append n.toNat h
    obtain ⟨d, ds, hd, hdigit⟩ := exists_repr n.toNat
    have hm : d ≠ '-' := by
      rintro rfl
      exact absurd hdigit (by decide)
    rw [hd] at hr ⊢
    rw [List.cons_append, readNumber.eq_2 _ fun _ he => hm (List.cons.inj he).1]
    rw [List.cons_append] at hr
    simp only [hr, Option.map_some, Int.toNat_of_nonneg hn]
  · rw [String.toList_append, List.append_assoc]
    show (readNatural ((-n).toNat.repr.toList ++ rest)).map _ = _
    have hneg : ((-n).toNat : Int) = -n := Int.toNat_of_nonneg (by omega)
    simp only [readNatural_append _ h, Option.map_some, hneg, Int.neg_neg]

/-! ## Brackets -/

theorem skipBlanks_append {bs : List Char} (h : ∀ c ∈ bs, isBlank c) (cs : List Char) :
    skipBlanks (bs ++ cs) = skipBlanks cs := List.dropWhile_append_of_pos h

theorem skipBlanks_cons (h : isBlank c = false) (cs : List Char) : skipBlanks (c :: cs) = c :: cs :=
  List.dropWhile_cons_of_neg (by simp [h])

theorem isBlank_of_mem_lineStart {depth : Option Nat} (h : c ∈ (lineStart depth).toList) :
    isBlank c := by
  cases depth with
  | none => cases h
  | some depth =>
    simp only [lineStart, indentation, String.toList_append, String.toList_ofList,
      List.mem_append, List.mem_replicate] at h
    rcases h with h | ⟨-, rfl⟩
    · obtain rfl : c = '\n' := by simpa using h
      rfl
    · rfl

/-- A comma and blanks separate two parts. -/
theorem exists_separator (depth : Option Nat) :
    ∃ bs, (separator depth).toList = ',' :: bs ∧ ∀ c ∈ bs, isBlank c := by
  cases depth with
  | none => exact ⟨[' '], rfl, List.forall_mem_singleton.mpr rfl⟩
  | some depth =>
    exact ⟨(lineStart (some depth)).toList, by simp [separator], fun c => isBlank_of_mem_lineStart⟩

/-- Blanks in front make no difference to what must come next. -/
theorem expect_append {bs : List Char} (h : ∀ c ∈ bs, isBlank c) (c : Char) (cs : List Char) :
    expect c (bs ++ cs) = expect c cs := by
  rw [expect, skipBlanks_append h, expect]

theorem expect_self (h : isBlank c = false) (cs : List Char) : expect c (c :: cs) = some cs := by
  rw [expect, skipBlanks_cons h]
  exact if_pos rfl

theorem expect_of_ne {d : Char} (h : isBlank d = false) (hd : d ≠ c) (cs : List Char) :
    expect c (d :: cs) = none := by
  rw [expect, skipBlanks_cons h]
  exact if_neg hd

/-- Parts between brackets, with blanks before each of them and before the closing bracket. -/
theorem toList_bracketed (opening closing : String) (depth : Option Nat) (part : String)
    (parts : List String) :
    ∃ first last sep : List Char, (∀ c ∈ first, isBlank c) ∧ (∀ c ∈ last, isBlank c) ∧
      (∀ c ∈ sep, isBlank c) ∧
      (bracketed opening closing depth (part :: parts)).toList =
        opening.toList ++ (first ++ ((',' :: sep).intercalate ((part :: parts).map String.toList) ++
          (last ++ closing.toList))) := by
  obtain ⟨sep, hsep, hs⟩ := exists_separator (depth.map (· + 1))
  refine ⟨(lineStart (depth.map (· + 1))).toList, (lineStart depth).toList, sep,
    fun c => isBlank_of_mem_lineStart, fun c => isBlank_of_mem_lineStart, hs, ?_⟩
  simp only [bracketed, List.isEmpty_cons, Bool.false_eq_true, if_false, String.toList_append,
    String.toList_intercalate, hsep, List.append_assoc]

theorem exists_intercalate (sep cs : List Char) (css : List (List Char)) :
    ∃ rest, sep.intercalate (cs :: css) = cs ++ rest := by
  cases css with
  | nil => exact ⟨[], by rw [List.intercalate_singleton, List.append_nil]⟩
  | cons ds css => exact ⟨_, by rw [List.intercalate_cons_cons, List.append_assoc]⟩

theorem length_le_intercalate (sep : List Char) {css : List (List Char)} (h : cs ∈ css) :
    cs.length ≤ (sep.intercalate css).length := by
  induction css with
  | nil => cases h
  | cons ds css ih =>
    cases css with
    | nil => rw [List.mem_singleton.mp h, List.intercalate_singleton]
    | cons es css =>
      rw [List.intercalate_cons_cons, List.length_append, List.length_append]
      rcases List.mem_cons.mp h with rfl | h
      · omega
      · have := ih h
        omega

theorem count_le_intercalate (c : Char) (sep : List Char) (css : List (List Char)) :
    css.length ≤ ((c :: sep).intercalate css).length + 1 := by
  induction css with
  | nil => exact Nat.zero_le _
  | cons ds css ih =>
    cases css with
    | nil => simp
    | cons es css =>
      rw [List.length_cons] at ih ⊢
      rw [List.intercalate_cons_cons, List.length_append, List.length_append, List.length_cons,
        List.length_cons]
      omega

section Parts
variable {α : Type} {part : List Char → Option (α × List Char)} {written : α → List Char}
  {closing : Char} {x : α} {xs : List α} {blanks sep last : List Char} {steps : Nat}

/-- `part` reads what is written of `x`, whatever blanks stand in front of it, unless a digit
follows. -/
def Recovers (part : List Char → Option (α × List Char)) (written : α → List Char) (x : α) : Prop :=
  ∀ blanks rest, (∀ c ∈ blanks, isBlank c) → NoDigitAhead rest →
    part (blanks ++ (written x ++ rest)) = some (x, rest)

theorem readParts_intercalate (hc : isBlank closing = false) (hcomma : ',' ≠ closing)
    (hsep : ∀ c ∈ sep, isBlank c) (hlast : ∀ c ∈ last, isBlank c)
    (hend : NoDigitAhead (last ++ closing :: rest)) (hne : xs ≠ [])
    (h : ∀ x ∈ xs, Recovers part written x) (hsteps : xs.length ≤ steps)
    (hb : ∀ c ∈ blanks, isBlank c) :
    readParts part closing steps (blanks ++ ((',' :: sep).intercalate (xs.map written) ++
      (last ++ closing :: rest))) = some (xs, rest) := by
  induction xs generalizing steps blanks with
  | nil => exact absurd rfl hne
  | cons x xs ih =>
    obtain ⟨hx, h⟩ := List.forall_mem_cons.mp h
    cases steps with
    | zero => cases hsteps
    | succ steps =>
      cases xs with
      | nil =>
        rw [readParts, List.map_singleton, List.intercalate_singleton, hx blanks _ hb hend]
        simp [expect_append hlast, expect_self hc]
      | cons y ys =>
        have hr := ih (List.cons_ne_nil y ys) h (Nat.le_of_succ_le_succ hsteps) hsep
        have hd : ∀ cs, NoDigitAhead (',' :: cs) := fun cs => noDigitAhead_cons rfl
        rw [readParts, List.map_cons, List.map_cons, List.intercalate_cons_cons, ← List.map_cons,
          List.append_assoc, List.append_assoc, List.cons_append, hx blanks _ hb (hd _)]
        simp only [Option.bind_eq_bind, Option.bind_some, expect_of_ne rfl hcomma,
          expect_self (rfl : isBlank ',' = false), hr]
        rfl

/-- What is written between brackets is read part by part. -/
theorem readBracketed_append (part : List Char → Option (α × List Char)) (opening closing : Char)
    {depth : Option Nat} {text : α → String}
    (hc : isBlank closing = false) (hcomma : ',' ≠ closing) (hdigit : closing.isDigit = false)
    (hsteps : (bracketed (String.singleton opening) (String.singleton closing) depth
      (xs.map text)).toList.length ≤ steps + 1)
    (hfirst : ∀ x ∈ xs, ∀ rest, expect closing ((text x).toList ++ rest) = none)
    (h : ∀ x ∈ xs, (text x).toList.length ≤ steps → Recovers part (fun x => (text x).toList) x)
    (rest : List Char) :
    ∃ inside, (bracketed (String.singleton opening) (String.singleton closing) depth
        (xs.map text)).toList ++ rest = opening :: inside ∧
      readBracketed part closing steps inside = some (xs, rest) := by
  cases xs with
  | nil =>
    refine ⟨closing :: rest, ?_, ?_⟩
    · simp [bracketed]
    · rw [readBracketed, expect_self hc]
  | cons x xs =>
    obtain ⟨first, last, sep, hf, hl, hs, ht⟩ := toList_bracketed (String.singleton opening)
      (String.singleton closing) depth (text x) (xs.map text)
    rw [← List.map_cons, List.map_map] at ht
    rw [ht] at hsteps ⊢
    simp only [List.length_append, String.toList_singleton, List.length_singleton] at hsteps
    generalize hw : (',' :: sep).intercalate ((x :: xs).map (String.toList ∘ text)) = inner at hsteps
    refine ⟨first ++ (inner ++ (last ++ closing :: rest)), by simp, ?_⟩
    have hnone : expect closing (first ++ (inner ++ (last ++ closing :: rest))) = none := by
      obtain ⟨more, hmore⟩ := exists_intercalate (',' :: sep) (text x).toList
        (xs.map (String.toList ∘ text))
      rw [expect_append hf, ← hw, List.map_cons, Function.comp_apply, hmore, List.append_assoc]
      exact hfirst x List.mem_cons_self _
    have hcount : (x :: xs).length ≤ steps := by
      have := count_le_intercalate ',' sep ((x :: xs).map (String.toList ∘ text))
      rw [hw, List.length_map] at this
      omega
    have hlen : ∀ y ∈ x :: xs, (text y).toList.length ≤ steps := by
      intro y hy
      have := length_le_intercalate (',' :: sep)
        (List.mem_map_of_mem (f := String.toList ∘ text) hy)
      rw [hw] at this
      simp only [Function.comp_apply] at this
      omega
    rw [readBracketed, hnone, ← hw]
    exact readParts_intercalate hc hcomma hs hl
      (noDigitAhead_append hl (noDigitAhead_cons hdigit)) (List.cons_ne_nil x xs)
      (fun y hy => h y hy (hlen y hy)) hcount hf

end Parts

/-! ## Values -/

theorem writeItems_eq (depth : Option Nat) (vs : List JsonValue) :
    writeItems depth vs = vs.map (write depth) := by
  induction vs with
  | nil => rfl
  | cons v vs ih => rw [writeItems, ih, List.map_cons]

def entryText (depth : Option Nat) (e : String × JsonValue) : String :=
  quotedText e.1 ++ ": " ++ write depth e.2

theorem writeEntries_eq (depth : Option Nat) (es : List (String × JsonValue)) :
    writeEntries depth es = es.map (entryText depth) := by
  induction es with
  | nil => rfl
  | cons e es ih => rw [writeEntries, ih, List.map_cons, entryText]

theorem exists_bracketed (opening : Char) (closing : String) (depth : Option Nat)
    (parts : List String) :
    ∃ cs, (bracketed (String.singleton opening) closing depth parts).toList = opening :: cs := by
  unfold bracketed
  split_ifs
  · exact ⟨_, by rw [String.toList_append, String.toList_singleton, List.singleton_append]⟩
  · simp only [String.toList_append, String.toList_singleton, List.cons_append]
    exact ⟨_, rfl⟩

/-- What is written of a value begins with no blank and no closing bracket. -/
theorem exists_write (depth : Option Nat) (v : JsonValue) :
    ∃ c cs, (write depth v).toList = c :: cs ∧ isBlank c = false ∧ c ≠ ']' := by
  cases v with
  | bool b =>
    cases b with
    | false => exact ⟨'f', "alse".toList, by rw [write]; rfl, rfl, by decide⟩
    | true => exact ⟨'t', "rue".toList, by rw [write]; rfl, rfl, by decide⟩
  | number n =>
    obtain ⟨c, cs, hn, hc⟩ := exists_number n
    refine ⟨c, cs, hn, ?_, ?_⟩
    · rcases hc with hc | rfl
      · by_contra hb
        simp only [isBlank, Bool.not_eq_false, Bool.or_eq_true, beq_iff_eq] at hb
        rcases hb with ((rfl | rfl) | rfl) | rfl <;> cases hc
      · rfl
    · rintro rfl
      rcases hc with hc | hc <;> exact absurd hc (by decide)
  | text s => exact ⟨'\x22', _, by rw [write, quotedText, String.toList_ofList], rfl, by decide⟩
  | array items =>
    obtain ⟨cs, h⟩ := exists_bracketed '[' "]" depth (writeItems (depth.map (· + 1)) items)
    exact ⟨'[', cs, h, rfl, by decide⟩
  | object entries =>
    obtain ⟨cs, h⟩ :=
      exists_bracketed '\x7b' "\x7d" depth (writeEntries (depth.map (· + 1)) entries)
    exact ⟨'\x7b', cs, h, rfl, by decide⟩

/-- An entry is read if its value is. -/
theorem recovers_readEntry {value : List Char → Option (JsonValue × List Char)}
    {depth : Option Nat} {e : String × JsonValue}
    (h : Recovers value (fun v => (write depth v).toList) e.2) :
    Recovers (readEntry value) (fun e => (entryText depth e).toList) e := by
  intro blanks rest hb hrest
  obtain ⟨key, v⟩ := e
  have hv := h [' '] rest (List.forall_mem_singleton.mpr rfl) hrest
  have hq : ∀ cs, expect '\x22' ('\x22' :: cs) = some cs := expect_self rfl
  have hc : ∀ cs, expect ':' (':' :: cs) = some cs := expect_self rfl
  have ht : (entryText depth (key, v)).toList ++ rest =
      (quotedText key).toList ++ ':' :: ([' '] ++ ((write depth v).toList ++ rest)) := by
    simp [entryText]
  simp only [ht, toList_quotedText_append]
  simp only [readEntry, expect_append hb, hq, Option.bind_eq_bind, Option.bind_some,
    readText_append, hc, hv, String.ofList_toList]
  rfl

/-- The text of a value is read as the value, given a step for each of its characters. -/
theorem recovers_readValue (steps : Nat) (depth : Option Nat) (v : JsonValue)
    (h : (write depth v).toList.length ≤ steps) :
    Recovers (readValue steps) (fun v => (write depth v).toList) v := by
  induction steps generalizing depth v with
  | zero =>
    obtain ⟨c, cs, hw, -⟩ := exists_write depth v
    rw [hw] at h
    cases h
  | succ steps ih =>
    intro blanks rest hb hrest
    have hskip : skipBlanks (blanks ++ ((write depth v).toList ++ rest)) =
        (write depth v).toList ++ rest := by
      obtain ⟨c, cs, hw, hc, -⟩ := exists_write depth v
      rw [skipBlanks_append hb, hw, List.cons_append, skipBlanks_cons hc]
    rw [readValue, hskip]
    cases v with
    | bool b =>
      rw [write]
      cases b <;> rfl
    | number n =>
      have hn := readNumber_append n hrest
      obtain ⟨c, cs, hc, hd⟩ := exists_number n
      rw [write]
      rw [hc, List.cons_append] at hn ⊢
      -- no other kind of value begins with a digit or a sign
      split
      case h_6 => simp only [hn, Option.map_some]
      all_goals
        rename_i heq
        obtain ⟨rfl, -⟩ := List.cons.inj heq
        rcases hd with hd | hd <;> exact absurd hd (by decide)
    | text s =>
      rw [write, toList_quotedText_append]
      simp only [readText_append]
      simp
    | array items =>
      rw [write, writeItems_eq] at h ⊢
      obtain ⟨inside, hi, hr⟩ := readBracketed_append (readValue steps) '[' ']' rfl (by decide) rfl h
        (fun v _ rest => by
          obtain ⟨c, cs, hw, hc, hn⟩ := exists_write (depth.map (· + 1)) v
          rw [hw, List.cons_append, expect_of_ne hc hn])
        (fun v _ hl => ih _ v hl) rest
      have hi : (bracketed "[" "]" depth (items.map (write (depth.map (· + 1))))).toList ++ rest =
        '[' :: inside := hi
      rw [hi]
      simp only [hr, Option.map_some]
    | object entries =>
      rw [write, writeEntries_eq] at h ⊢
      have hlen : ∀ e, (write (depth.map (· + 1)) e.2).toList.length ≤
          (entryText (depth.map (· + 1)) e).toList.length := by
        intro e
        simp only [entryText, String.toList_append, List.length_append]
        omega
      obtain ⟨inside, hi, hr⟩ := readBracketed_append (readEntry (readValue steps))
        '\x7b' '\x7d' rfl (by decide) rfl h
        (fun e _ rest => by
          simp only [entryText, String.toList_append, List.append_assoc, toList_quotedText_append]
          exact expect_of_ne rfl (by decide) _)
        (fun e _ hl => recovers_readEntry (ih _ e.2 ((hlen e).trans hl))) rest
      have hi : (bracketed "\x7b" "\x7d" depth
        (entries.map (entryText (depth.map (· + 1))))).toList ++ rest = '\x7b' :: inside := hi
      rw [hi]
      simp only [hr, Option.map_some]

/-- A written value is read back, also with blanks behind it. -/
theorem parse_write (depth : Option Nat) (v : JsonValue) {blanks : String}
    (h : ∀ c ∈ blanks.toList, isBlank c) : parse (write depth v ++ blanks) = some v := by
  have hend : NoDigitAhead (blanks.toList ++ []) :=
    noDigitAhead_append h fun _ hc => by cases hc
  rw [List.append_nil] at hend
  have hlen : (write depth v).toList.length ≤ (write depth v ++ blanks).length := by
    rw [← String.length_toList, String.toList_append, List.length_append]
    omega
  have hr := recovers_readValue _ depth v hlen [] blanks.toList (fun _ hc => by cases hc) hend
  have hs : skipBlanks blanks.toList = [] := by
    simpa [skipBlanks] using skipBlanks_append h []
  rw [List.nil_append, ← String.toList_append] at hr
  rw [parse, hr]
  simp only [hs, List.isEmpty_nil, if_true]

end RecordSchema.JsonValue
