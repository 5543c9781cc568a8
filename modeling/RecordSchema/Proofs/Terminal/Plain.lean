import Mathlib.Data.List.Basic
import RecordSchema.Proofs.Text.Cut
import RecordSchema.Terminal.Console
import RecordSchema.Text.Quoted

/-! # Texts without escapes

A text without an escape has no control sequence, and a console without colour leaves it alone.
Digits, and the quoted form of any text at all, are such texts. No control sequence goes past the end
of a line, so lines may be put out one by one.
-/
namespace RecordSchema.Terminal
open Text (takeWhile_append_stop dropWhile_append_stop)
variable {s s' : String} {cs : List Char}

/-- No character of the text begins a control sequence. -/
def IsPlain (s : String) : Prop := escape ∉ s.toList

instance (s : String) : Decidable (IsPlain s) := inferInstanceAs (Decidable (escape ∉ s.toList))

/-- Somewhere in the text stands a complete control sequence. -/
def HoldsSequence (s : String) : Prop :=
  ∃ before after, s.toList = before ++ escape :: after ∧ (sequenceTail? after).isSome

theorem IsPlain.not_holdsSequence (h : IsPlain s) : ¬ HoldsSequence s := by
  rintro ⟨before, after, hs, -⟩
  exact h (hs ▸ by simp)

theorem IsPlain.plain_eq (h : IsPlain s) : plain s = s := by
  rw [plain, plainFrom_eq_self h, String.ofList_toList]

/-- On a console without colour a text without escapes appears as it is, as on any other. -/
theorem IsPlain.put_eq (h : IsPlain s) (c : Console) : c.put s false = s := by
  unfold Console.put
  cases c.colour with
  | true => rfl
  | false => exact h.plain_eq

/-! ## Lines -/

theorem plainFrom_cons {c : Char} (hc : c ≠ escape) (cs : List Char) :
    plainFrom (c :: cs) 0 = c :: plainFrom cs 0 := by
  rw [plainFrom, if_neg hc]

/-- No control sequence goes past the end of a line. -/
theorem sequenceTail?_line (cs rest : List Char) :
    sequenceTail? (cs ++ '\n' :: rest) = sequenceTail? cs := by
  have hp : isParameter '\n' = false := by decide
  have hi : isIntermediate '\n' = false := by decide
  have hf : isFinal '\n' = false := by decide
  cases cs with
  | nil => rfl
  | cons c cs =>
    by_cases hc : c = '['
    · subst hc
      simp only [List.cons_append, sequenceTail?, takeWhile_append_stop hp,
        dropWhile_append_stop hp, takeWhile_append_stop hi, dropWhile_append_stop hi]
      cases (cs.dropWhile isParameter).dropWhile isIntermediate with
      | nil => simp [hf]
      | cons d ds => rfl
    · simp [sequenceTail?, hc]

theorem sequenceTail?_le {cs : List Char} {n : Nat} (h : sequenceTail? cs = some n) :
    n ≤ cs.length := by
  unfold sequenceTail? at h
  split at h
  next cs =>
    dsimp only at h
    split at h
    next c rest hr =>
      obtain ⟨-, h⟩ := Option.ite_none_right_eq_some.mp h
      cases h
      have hp := congrArg List.length (List.takeWhile_append_dropWhile (p := isParameter) (l := cs))
      have hi := congrArg List.length
        (List.takeWhile_append_dropWhile (p := isIntermediate) (l := cs.dropWhile isParameter))
      rw [List.length_append] at hp hi
      rw [hr, List.length_cons] at hi
      rw [List.length_cons]
      omega
    · cases h
  · cases h

theorem plainFrom_line (cs rest : List Char) {skip : Nat} (h : skip ≤ cs.length) :
    plainFrom (cs ++ '\n' :: rest) skip = plainFrom cs skip ++ '\n' :: plainFrom rest 0 := by
  induction cs generalizing skip with
  | nil =>
    obtain rfl := Nat.le_zero.mp h
    exact plainFrom_cons (by decide) rest
  | cons c cs ih =>
    cases skip with
    | succ skip => exact ih (Nat.le_of_succ_le_succ h)
    | zero =>
      rw [List.cons_append, plainFrom, plainFrom, sequenceTail?_line]
      split_ifs
      · cases hn : sequenceTail? cs with
        | none => exact congrArg (c :: ·) (ih (Nat.zero_le _))
        | some n => exact ih (sequenceTail?_le hn)
      · exact congrArg (c :: ·) (ih (Nat.zero_le _))

theorem plain_line (line rest : String) :
    plain (line ++ "\n" ++ rest) = plain (line ++ "\n") ++ plain rest := by
  have hn : "\n".toList = ['\n'] := rfl
  have hl := plainFrom_line line.toList rest.toList (Nat.zero_le _)
  have he := plainFrom_line line.toList [] (Nat.zero_le _)
  rw [plain, plain, plain, String.toList_append, String.toList_append, hn, he,
    ← String.ofList_append, List.append_assoc, List.append_assoc]
  exact congrArg String.ofList hl

theorem put_line (c : Console) (line rest : String) :
    c.put (line ++ "\n" ++ rest) false = c.put (line ++ "\n") false ++ c.put rest false := by
  unfold Console.put
  cases c.colour with
  | true => rfl
  | false => exact plain_line line rest

theorem put_empty (c : Console) : c.put "" false = "" := by
  unfold Console.put
  cases c.colour <;> rfl

/-- Lines are written one by one as they are all at once. -/
theorem join_put (c : Console) (lines : List String) :
    String.join ((lines.map fun line => line ++ "\n").map fun text => c.put text false) =
      c.put (String.join (lines.map fun line => line ++ "\n")) false := by
  induction lines with
  | nil => exact (put_empty c).symm
  | cons line lines ih =>
    rw [List.map_cons, List.map_cons, String.join_cons, String.join_cons, ih, put_line]

/-! ## Putting texts together -/

@[simp] theorem isPlain_ofList : IsPlain (String.ofList cs) ↔ escape ∉ cs := by
  rw [IsPlain, String.toList_ofList]

/-- A literal is looked through by its characters. -/
theorem isPlain_literal {cs : List Char} (h : cs.contains escape = false) :
    IsPlain (String.ofList cs) := by
  rw [isPlain_ofList]
  intro he
  rw [List.contains_iff_mem.mpr he] at h
  cases h

@[simp] theorem isPlain_append : IsPlain (s ++ s') ↔ IsPlain s ∧ IsPlain s' := by
  simp [IsPlain, String.toList_append]

theorem isPlain_join {ss : List String} (h : ∀ s ∈ ss, IsPlain s) : IsPlain (String.join ss) := by
  rw [IsPlain, String.toList_join, List.mem_flatMap]
  rintro ⟨s, hs, he⟩
  exact h s hs he

theorem not_mem_intercalate {a : Char} {sep : List Char} {css : List (List Char)} (hs : a ∉ sep)
    (h : ∀ cs ∈ css, a ∉ cs) : a ∉ sep.intercalate css := by
  induction css with
  | nil => simp
  | cons cs css ih =>
    obtain ⟨hc, hcs⟩ := List.forall_mem_cons.mp h
    cases css with
    | nil => simpa using hc
    | cons ds css =>
      rw [List.intercalate_cons_cons]
      simp [hc, hs, ih hcs]

theorem isPlain_intercalate {sep : String} {ss : List String} (hs : IsPlain sep)
    (h : ∀ s ∈ ss, IsPlain s) : IsPlain (sep.intercalate ss) := by
  rw [IsPlain, String.toList_intercalate]
  refine not_mem_intercalate hs fun cs hc => ?_
  obtain ⟨s, hm, rfl⟩ := List.mem_map.mp hc
  exact h s hm

/-! ## Digits -/

theorem digitChar_ne_escape : ∀ n < 16, Nat.digitChar n ≠ escape := by decide

theorem escape_not_mem_toDigits {b : Nat} (hb : 1 < b) (hl : b ≤ 16) (n : Nat) :
    escape ∉ b.toDigits n := by
  induction n using Nat.strongRecOn with
  | ind n ih =>
    rw [Nat.toDigits_eq_if hb]
    split_ifs with hn
    · have hd := digitChar_ne_escape n (by omega)
      simpa using hd.symm
    · -- the last digit and the digits of the rest, which is smaller
      have hlt : n / b < n := Nat.div_lt_self (by omega) hb
      have hr : n % b < b := Nat.mod_lt n (by omega)
      have hd := digitChar_ne_escape (n % b) (by omega)
      simpa using ⟨ih (n / b) hlt, hd.symm⟩

@[simp] theorem isPlain_repr_nat (n : Nat) : IsPlain n.repr := by
  rw [IsPlain, Nat.toList_repr]
  exact escape_not_mem_toDigits (by decide) (by decide) n

@[simp] theorem isPlain_repr_int (n : Int) : IsPlain n.repr := by
  rw [Int.repr_eq_if]
  split_ifs
  · exact isPlain_repr_nat _
  · exact isPlain_append.mpr ⟨isPlain_literal rfl, isPlain_repr_nat _⟩

theorem escape_not_mem_hex (width n : Nat) : escape ∉ Text.hex width n := by
  have hz : escape ≠ '0' := by decide
  have hd : escape ∉ Nat.toDigits 16 n := escape_not_mem_toDigits (by decide) (by decide) n
  simp [Text.hex, List.mem_replicate, hz, hd]

/-! ## Quoted texts -/

theorem escape_not_mem_escapeCode (n : Nat) : escape ∉ Text.escapeCode n := by
  have hb : escape ≠ '\\' := by decide
  have hx : escape ≠ 'x' := by decide
  have hu : escape ≠ 'u' := by decide
  have hU : escape ≠ 'U' := by decide
  unfold Text.escapeCode
  split_ifs <;> simp [hb, hx, hu, hU, escape_not_mem_hex]

theorem escape_not_mem_escapeChar {quote : Char} (hq : quote ≠ escape) (c : Char) :
    escape ∉ Text.escapeChar quote c := by
  unfold Text.escapeChar Text.shortEscape?
  split
  · rename_i e he
    split_ifs at he <;> cases he <;> simp [hq.symm] <;> decide
  · split_ifs with hp
    · rw [List.mem_singleton]
      rintro rfl
      exact absurd hp (by decide)
    · exact escape_not_mem_escapeCode c.toNat

/-- An escape is not printable, so the quoted form of a text shows it by its code. -/
@[simp] theorem isPlain_quoted (s : String) : IsPlain (Text.quoted s) := by
  have hq : Text.chooseQuote s.toList ≠ escape := by
    unfold Text.chooseQuote
    split_ifs <;> decide
  rw [Text.quoted, isPlain_ofList, Text.quoteChars]
  simp [hq.symm, escape_not_mem_escapeChar hq]

end RecordSchema.Terminal
