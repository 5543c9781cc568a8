import Mathlib.Data.List.Basic
import RecordSchema.Log.Record
import RecordSchema.Toml.Text
import RecordSchema.Toml.Writer

/-! # Texts between double quotes

A character is written as a short escape, as an escape with its code or as itself. Reading takes
each of the three as one character again, so that a text between double quotes is read back as it
was. No written character is a control character.
-/
namespace RecordSchema.Toml
open Text (hex codePoint?)
variable {c : Char}

/-- What a short escape is read as. -/
theorem shortEscapes_read : ∀ p ∈ shortEscapes, escapeWidth? p.2 = none ∧
    simpleEscapes.lookup p.2 = some p.1 ∧ isControl p.2 = false := by
  decide

/-- The code points of the control characters. -/
def controlCodes : List Nat := List.range 0x20 ++ [0x7f]

theorem mem_controlCodes {n : Nat} : n ∈ controlCodes ↔ n < 0x20 ∨ n = 0x7f := by
  simp [controlCodes]

/-- What the code of a control character is read as. -/
theorem codePoint?_hex : ∀ n ∈ controlCodes, (hex 4 n).length = 4 ∧
    codePoint? (hex 4 n) = some (Char.ofNat n) ∧ (hex 4 n).any isControl = false := by
  decide +kernel

/-- The three ways in which a character is written. -/
inductive Written (c : Char) : List Char → Prop
  | short {e : Char} (hw : escapeWidth? e = none) (hs : simpleEscapes.lookup e = some c)
      (he : isControl e = false) : Written c ['\\', e]
  | code {digits : List Char} (hl : digits.length = 4) (hc : codePoint? digits = some c)
      (hd : digits.any isControl = false) : Written c ('\\' :: 'u' :: digits)
  | plain (hq : c ≠ '\x22') (hb : c ≠ '\\') (hc : isControl c = false) : Written c [c]

theorem written_escapeText (c : Char) : Written c (escapeText c) := by
  unfold escapeText
  cases h : shortEscapes.lookup c with
  | some e =>
    have hm : (c, e) ∈ shortEscapes := by
      obtain ⟨front, back, hs, -⟩ := List.lookup_eq_some_iff.mp h
      rw [hs]
      simp
    obtain ⟨hw, hs, he⟩ := shortEscapes_read (c, e) hm
    exact .short hw hs he
  | none =>
    have hn : ∀ p ∈ shortEscapes, c ≠ p.1 := by simpa using List.lookup_eq_none_iff.mp h
    have ht : c ≠ '\t' := hn ('\t', 't') (by decide)
    by_cases hk : c.toNat < 0x20 ∨ c.toNat = 0x7f
    · obtain ⟨hl, hc, hd⟩ := codePoint?_hex c.toNat (mem_controlCodes.mpr hk)
      rw [Char.ofNat_toNat] at hc
      simp only [if_pos hk]
      exact .code hl hc hd
    · have hc : isControl c = false := by
        rw [not_or] at hk
        simp [isControl, hk.1, hk.2]
      simp only [if_neg hk]
      exact .plain (hn _ (by decide : ('\x22', '\x22') ∈ shortEscapes))
        (hn _ (by decide : ('\\', '\\') ∈ shortEscapes)) hc

theorem Written.isControl_eq_false {cs : List Char} (h : Written c cs) :
    ∀ a ∈ cs, isControl a = false := by
  cases h with
  | short hw hs he => simpa [isControl] using he
  | code hl hc hd =>
    rw [List.any_eq_false] at hd
    simpa [isControl] using hd
  | plain hq hb hc => simpa using hc

theorem Written.head?_ne_quote {cs : List Char} (h : Written c cs) (rest : List Char) :
    (cs ++ rest).head? ≠ some '\x22' := by
  cases h with
  | short hw hs he => simp
  | code hl hc hd => simp
  | plain hq hb hc => simpa using hq

theorem lineText_skip (quote : Char) (escapes : Bool) (cs rest : List Char) :
    lineText quote escapes (cs ++ rest) cs.length = lineText quote escapes rest 0 := by
  induction cs with
  | nil => rfl
  | cons c cs ih => exact ih

/-- An escape is passed over as a whole. -/
theorem lineText_escape {cs : List Char} {n : Nat} (h : escaped? cs = some (c, n)) :
    lineText '\x22' true ('\\' :: cs) 0 =
      (lineText '\x22' true cs n).map fun p => (c :: p.1, p.2) := by
  have hb : isControl '\\' = false := by decide
  rw [lineText]
  simp only [hb, h]
  cases lineText '\x22' true cs n <;> rfl

/-- However a character is written, it is read as one character. -/
theorem Written.lineText_append {cs : List Char} (h : Written c cs) (rest : List Char) :
    lineText '\x22' true (cs ++ rest) 0 =
      (lineText '\x22' true rest 0).map fun p => (c :: p.1, p.2) := by
  cases h with
  | @short e hw hs he =>
    have h : escaped? (e :: rest) = some (c, 1) := by simp [escaped?, hw, hs]
    exact lineText_escape h
  | @code digits hl hc hd =>
    have h : escaped? ('u' :: (digits ++ rest)) = some (c, 5) := by
      simp [escaped?, escapeWidth?, ← hl, hc]
    have hs := lineText_skip '\x22' true ('u' :: digits) rest
    rw [List.length_cons, hl] at hs
    exact hs ▸ lineText_escape h
  | plain hq hb hc =>
    rw [List.singleton_append, lineText, if_neg hq, if_neg (by simp [hc]), if_neg (by simp [hb])]
    cases lineText '\x22' true rest 0 <;> rfl

theorem lineText_escaped (cs rest : List Char) :
    lineText '\x22' true (cs.flatMap escapeText ++ '\x22' :: rest) 0 = .ok (cs, rest) := by
  induction cs with
  | nil => rfl
  | cons c cs ih =>
    rw [List.flatMap_cons, List.append_assoc, (written_escapeText c).lineText_append, ih]
    rfl

/-- The opening quote is not the first of three. -/
theorem dropFront?_escaped (cs : List Char) {rest : List Char} (h : rest.head? ≠ some '\x22') :
    Text.dropFront? ['\x22', '\x22'] (cs.flatMap escapeText ++ '\x22' :: rest) = none := by
  cases cs with
  | nil =>
    cases rest with
    | nil => rfl
    | cons a rest =>
      have ha : '\x22' ≠ a := fun e => h (by rw [e]; rfl)
      simp [Text.dropFront?, ha]
  | cons c cs =>
    have hh := (written_escapeText c).head?_ne_quote (cs.flatMap escapeText ++ '\x22' :: rest)
    rw [List.flatMap_cons, List.append_assoc]
    generalize escapeText c ++ (cs.flatMap escapeText ++ '\x22' :: rest) = front at hh
    cases front with
    | nil => rfl
    | cons a front =>
      have ha : '\x22' ≠ a := fun e => hh (by rw [e]; rfl)
      simp [Text.dropFront?, ha]

/-- A written text is read back, unless a further quote follows it at once. -/
theorem text_quotedText (s : String) {rest : List Char} (h : rest.head? ≠ some '\x22') :
    text ((quotedText s).toList ++ rest) = .ok (s, rest) := by
  have hd := dropFront?_escaped s.toList h
  have hl := lineText_escaped s.toList rest
  rw [quotedText, String.toList_ofList, List.cons_append, List.append_assoc, List.singleton_append,
    text, if_pos (.inr rfl), hd]
  simp only [beq_self_eq_true, hl, ok_bind, String.ofList_toList]

theorem isControl_of_mem_quotedText {s : String} {a : Char} (h : a ∈ (quotedText s).toList) :
    isControl a = false := by
  have hq : isControl '\x22' = false := by decide
  rw [quotedText, String.toList_ofList] at h
  simp only [List.mem_cons, List.mem_append, List.mem_flatMap, List.not_mem_nil, or_false] at h
  rcases h with rfl | ⟨c, -, hc⟩ | rfl
  · exact hq
  · exact (written_escapeText c).isControl_eq_false a hc
  · exact hq

end RecordSchema.Toml
