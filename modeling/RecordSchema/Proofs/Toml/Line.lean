import Mathlib.Data.List.DropRight
import RecordSchema.Proofs.Toml.QuotedText
import RecordSchema.Toml.Document

/-! # Lines that hold a key and a text

A key is written as it is where it holds bare characters only, and quoted otherwise. A written line
is read as one entry: its key, its text, and the lines after it as the rest.
-/
namespace RecordSchema.Toml
variable {k s : String}

theorem isSpace_of_isBare {c : Char} (h : isBare c = true) : isSpace c = false := by
  by_contra hs
  rw [Bool.not_eq_false, isSpace, Bool.or_eq_true, beq_iff_eq, beq_iff_eq] at hs
  rcases hs with rfl | rfl <;> exact absurd h (by decide)

/-- A run of bare characters keeps its ends when blanks are dropped. -/
theorem dropWhile_isSpace_of_bare {cs : List Char} (h : ∀ c ∈ cs, isBare c = true) :
    cs.dropWhile isSpace = cs := by
  rw [List.dropWhile_eq_self_iff]
  intro hl
  have hb := isSpace_of_isBare (h _ (List.getElem_mem hl))
  simp [hb]

theorem bareKey_append {cs : List Char} (hn : cs ≠ []) (hb : ∀ c ∈ cs, isBare c = true)
    (rest : List Char) :
    bareKey (cs ++ ' ' :: '=' :: rest) = .ok (String.ofList cs, '=' :: rest) := by
  have hp : ∀ c ∈ cs, (isBare c || isSpace c) = true := fun c hc => by simp [hb c hc]
  have hrun : (cs ++ ' ' :: '=' :: rest).takeWhile (fun c => isBare c || isSpace c) =
      cs ++ [' '] := by
    rw [List.takeWhile_append_of_pos hp]
    rfl
  have hafter : (cs ++ ' ' :: '=' :: rest).dropWhile (fun c => isBare c || isSpace c) =
      '=' :: rest := by
    rw [List.dropWhile_append_of_pos hp]
    rfl
  have hfront : (cs ++ [' ']).dropWhile isSpace = cs ++ [' '] := by
    rw [List.dropWhile_append, dropWhile_isSpace_of_bare hb]
    simp [hn]
  have hpart : ((cs ++ [' ']).reverse.dropWhile isSpace).reverse = cs := by
    have hr : ∀ c ∈ cs.reverse, isBare c = true := fun c hc => hb c (List.mem_reverse.mp hc)
    rw [List.reverse_append, List.reverse_singleton, List.singleton_append,
      List.dropWhile_cons_of_pos (by decide), dropWhile_isSpace_of_bare hr, List.reverse_reverse]
  have hs : cs.any isSpace = false := by
    rw [List.any_eq_false]
    intro c hc
    simp [isSpace_of_isBare (hb c hc)]
  have he : cs.isEmpty = false := List.isEmpty_eq_false_iff.mpr hn
  unfold bareKey
  simp only [hrun, hafter, hfront, hpart, hs, he]
  rfl

/-- The text of a key is a run of bare characters, or it is quoted. -/
theorem keyText_cases (k : String) :
    (keyText k = k ∧ k.toList ≠ [] ∧ ∀ c ∈ k.toList, isBare c = true) ∨
      keyText k = quotedText k := by
  unfold keyText
  split
  · rename_i h
    obtain ⟨hn, hb⟩ := Bool.and_eq_true_iff.mp h
    refine .inl ⟨rfl, ?_, List.all_eq_true.mp hb⟩
    simpa using hn
  · exact .inr rfl

theorem quotedText_toList (s : String) :
    ∃ cs, (quotedText s).toList = '\x22' :: cs := ⟨_, String.toList_ofList⟩

/-- A key begins with a bare character or a quote. -/
theorem keyText_toList (k : String) :
    ∃ c cs, (keyText k).toList = c :: cs ∧ (isBare c = true ∨ c = '\x22') := by
  rcases keyText_cases k with ⟨h, hn, hb⟩ | h
  · obtain ⟨c, cs, hc⟩ := List.exists_cons_of_ne_nil hn
    exact ⟨c, cs, by rw [h, hc], .inl (hb c (by simp [hc]))⟩
  · obtain ⟨cs, hc⟩ := quotedText_toList k
    exact ⟨'\x22', cs, by rw [h, hc], .inr rfl⟩

theorem skipSpaces_cons {c : Char} (h : isSpace c = false) (cs : List Char) :
    skipSpaces (c :: cs) = c :: cs :=
  List.dropWhile_cons_of_neg (by simp [h])

/-- A quoted key does not begin with three quotes. -/
theorem quotedKey_of_text {cs rest : List Char} {part : String} (ht : text cs = .ok (part, rest))
    (hq : ∀ c more, cs ≠ c :: c :: c :: more) : quotedKey cs = .ok (part, skipSpaces rest) := by
  unfold quotedKey
  split
  · rename_i a b c more
    have hne : ¬ (a = b ∧ b = c) := by
      rintro ⟨rfl, rfl⟩
      exact hq a more rfl
    rw [if_neg hne, ht]
    rfl
  · rw [ht]
    rfl

theorem quotedKey_quotedText (k : String) (rest : List Char) :
    quotedKey ((quotedText k).toList ++ ' ' :: '=' :: rest) = .ok (k, '=' :: rest) := by
  have ht : text ((quotedText k).toList ++ ' ' :: '=' :: rest) = .ok (k, ' ' :: '=' :: rest) :=
    text_quotedText k (by simp)
  refine quotedKey_of_text ht fun c more h => ?_
  have hd : Text.dropFront? ['\x22', '\x22']
      (k.toList.flatMap escapeText ++ '\x22' :: ' ' :: '=' :: rest) = none :=
    dropFront?_escaped k.toList (by simp)
  rw [quotedText, String.toList_ofList, List.cons_append, List.append_assoc,
    List.singleton_append] at h
  obtain ⟨rfl, h⟩ := List.cons.inj h
  rw [h] at hd
  cases hd

theorem keyPart_keyText (k : String) (rest : List Char) :
    keyPart ((keyText k).toList ++ ' ' :: '=' :: rest) = .ok (k, '=' :: rest) := by
  rcases keyText_cases k with ⟨h, hn, hb⟩ | h
  · have hk := bareKey_append hn hb rest
    obtain ⟨c, cs, hc⟩ := List.exists_cons_of_ne_nil hn
    have hbc : isBare c = true := hb c (by simp [hc])
    have hq : ¬ (c = '\x27' ∨ c = '\x22') := by
      rintro (rfl | rfl) <;> exact absurd hbc (by decide)
    rw [String.ofList_toList, hc, List.cons_append] at hk
    rw [h, hc, List.cons_append, keyPart, skipSpaces_cons (isSpace_of_isBare hbc)]
    exact (if_neg hq).trans hk
  · have hk := quotedKey_quotedText k rest
    obtain ⟨cs, hc⟩ := quotedText_toList k
    rw [hc, List.cons_append] at hk
    rw [h, hc, List.cons_append, keyPart, skipSpaces_cons (by decide)]
    exact hk

/-- What stands between a key and its text. -/
theorem entryKey_keyText (k : String) (rest : List Char) :
    entryKey ((keyText k).toList ++ ' ' :: '=' :: ' ' :: '\x22' :: rest) =
      .ok ([k], '\x22' :: rest) := by
  have hk : key ((keyText k).toList ++ ' ' :: '=' :: ' ' :: '\x22' :: rest) =
      .ok ([k], '=' :: ' ' :: '\x22' :: rest) := by
    rw [key, depthLimit, keyParts, keyPart_keyText]
    rfl
  rw [entryKey, hk]
  rfl

/-- A text is a value outside of all collections. -/
theorem outerValue_quotedText (s : String) {rest : List Char} (h : rest.head? ≠ some '\x22') :
    outerValue ((quotedText s).toList ++ rest) = .ok (.text s, rest) := by
  have ht := text_quotedText s h
  obtain ⟨cs, hc⟩ := quotedText_toList s
  rw [hc, List.cons_append] at ht ⊢
  rw [outerValue, value, ht]
  · rfl
  all_goals simp

/-- No blank, line end or comment stands in front of a key, nor does a header begin with one. -/
theorem keyText_opening {c : Char} (h : isBare c = true ∨ c = '\x22') :
    isSpace c = false ∧ c ≠ '\n' ∧ c ≠ '#' ∧ c ≠ '[' := by
  rcases h with h | rfl
  · refine ⟨isSpace_of_isBare h, ?_, ?_, ?_⟩ <;> rintro rfl <;> exact absurd h (by decide)
  · decide

theorem between_cons {c : Char} (h : isSpace c = false ∧ c ≠ '\n' ∧ c ≠ '#' ∧ c ≠ '[')
    (cs : List Char) : between (c :: cs) = .ok (c :: cs) := by
  rw [between, List.length_cons, skipBetween]
  · rw [if_neg (by simp [h.1, h.2.1])]
  · exact fun hc => h.2.2.1 hc

theorem entryText_toList (k s : String) :
    (entryText (k, .text s)).toList =
      (keyText k).toList ++ ' ' :: '=' :: ' ' :: ((quotedText s).toList ++ ['\n']) := by
  have he : " = ".toList = [' ', '=', ' '] := by decide
  have hn : "\n".toList = ['\n'] := by decide
  simp only [entryText, valueText?, String.toList_append, he, hn, List.append_assoc,
    List.cons_append, List.nil_append]

/-- What a line that holds an entry adds to a table. -/
theorem entries_step {put : Body → Entry → Except Fault Body} {cs rest after next : List Char}
    {names : List String} {v : Value} (hb : between cs = .ok cs) (hc : cs ≠ [])
    (hh : cs.head? ≠ some '[') (hk : entryKey cs = .ok (names, rest))
    (hv : outerValue rest = .ok (v, after)) (he : endLine after = .ok next) (n : Nat) (b : Body) :
    entries put (n + 1) b cs = put b (dottedEntry v names) >>= fun b => entries put n b next := by
  rw [entries, hb, ok_bind]
  split
  · exact absurd rfl hc
  · exact absurd rfl hh
  · simp only [hk, hv, he, ok_bind]

theorem entries_entryText (put : Body → Entry → Except Fault Body) (n : Nat) (b : Body)
    (k s : String) (rest : List Char) :
    entries put (n + 1) b ((entryText (k, .text s)).toList ++ rest) =
      put b (⟨k, false⟩, .leaf (.text s)) >>= fun b => entries put n b rest := by
  have hline : (entryText (k, .text s)).toList ++ rest =
      (keyText k).toList ++ ' ' :: '=' :: ' ' :: ((quotedText s).toList ++ '\n' :: rest) := by
    rw [entryText_toList]
    simp
  obtain ⟨c, cs, hc, ho⟩ := keyText_toList k
  obtain ⟨q, hq⟩ := quotedText_toList s
  have ho := keyText_opening ho
  have hk := entryKey_keyText k (q ++ '\n' :: rest)
  have hv : outerValue ((quotedText s).toList ++ '\n' :: rest) = .ok (.text s, '\n' :: rest) :=
    outerValue_quotedText s (by simp)
  have hb := between_cons ho
    (cs ++ ' ' :: '=' :: ' ' :: ((quotedText s).toList ++ '\n' :: rest))
  rw [hline]
  rw [hq] at hv hb ⊢
  rw [← List.cons_append, ← hc] at hb
  refine entries_step hb ?_ ?_ hk hv rfl n b
  · simp [hc]
  · simpa [hc] using ho.2.2.2

theorem isBare_of_isControl {c : Char} (h : isControl c = true) : isBare c = false := by
  have hall : ∀ n ∈ controlCodes, isBare (Char.ofNat n) = false := by
    decide
  have hm : c.toNat ∈ controlCodes := by
    simp only [isControl, Bool.or_eq_true, Bool.and_eq_true, decide_eq_true_eq, beq_iff_eq] at h
    exact mem_controlCodes.mpr (h.imp_left And.left)
  have hc := hall c.toNat hm
  rwa [Char.ofNat_toNat] at hc

theorem isControl_of_mem_keyText {a : Char} (h : a ∈ (keyText k).toList) : isControl a = false := by
  rcases keyText_cases k with ⟨hk, -, hb⟩ | hk
  · rw [hk] at h
    by_contra hc
    rw [Bool.not_eq_false] at hc
    exact absurd (hb a h) (by simp [isBare_of_isControl hc])
  · rw [hk] at h
    exact isControl_of_mem_quotedText h

end RecordSchema.Toml
