import Mathlib.Data.List.TakeWhile
import Mathlib.Data.Nat.Digits.Defs
import Mathlib.Tactic.Ring
import RecordSchema.Log.Level

/-! # Which level a setting asks for

A setting is looked at in capitals and without the blanks at its ends. Decimal digits, of whatever
script, ask for the number that they write, and the name of a level asks for that level. Where all
characters are digits but one of them is no decimal digit, or where there are too many of them, the
reading fails. Everything else asks for nothing.
-/
namespace RecordSchema

namespace Text
variable {cs : List Char} {n : Nat}

/-- Decimal digits and the number that they write, the first digit counting most. -/
def Decimal (cs : List Char) (n : Nat) : Prop :=
  cs ≠ [] ∧ ∃ ds : List Nat, cs.map decimalValue? = ds.map some ∧ n = Nat.ofDigits 10 ds.reverse

theorem foldlM_decimalValue {a : Nat} :
    (cs.foldlM (fun n c => (decimalValue? c).map (n * 10 + ·)) a) = some n ↔
      ∃ ds : List Nat, cs.map decimalValue? = ds.map some ∧
        n = a * 10 ^ ds.length + Nat.ofDigits 10 ds.reverse := by
  -- on the digits; what those before them write is in the accumulator
  induction cs generalizing a with
  | nil =>
    constructor
    · rintro ⟨⟩
      exact ⟨[], rfl, by simp⟩
    · rintro ⟨ds, hds, rfl⟩
      obtain rfl : ds = [] := by simpa using hds.symm
      simp
  | cons c cs ih =>
    rw [List.foldlM_cons, Option.bind_eq_bind, Option.bind_eq_some_iff]
    constructor
    · rintro ⟨b, hb, hn⟩
      obtain ⟨d, hd, rfl⟩ := Option.map_eq_some_iff.mp hb
      obtain ⟨ds, hds, rfl⟩ := ih.mp hn
      refine ⟨d :: ds, by rw [List.map_cons, List.map_cons, hd, hds], ?_⟩
      rw [List.reverse_cons, Nat.ofDigits_append, Nat.ofDigits_singleton, List.length_reverse,
        List.length_cons, Nat.pow_succ]
      ring
    · rintro ⟨ds, hds, rfl⟩
      cases ds with
      | nil => simp at hds
      | cons d ds =>
        obtain ⟨hd, hds⟩ := List.cons.inj hds
        refine ⟨a * 10 + d, by rw [hd]; rfl, ih.mpr ⟨ds, hds, ?_⟩⟩
        rw [List.reverse_cons, Nat.ofDigits_append, Nat.ofDigits_singleton, List.length_reverse,
          List.length_cons, Nat.pow_succ]
        ring

theorem readDecimal?_eq_some_iff : readDecimal? cs = some n ↔ Decimal cs n := by
  cases cs with
  | nil => simp [readDecimal?, Decimal]
  | cons c cs =>
    rw [readDecimal?, foldlM_decimalValue, Decimal]
    · simp
    · simp

theorem exists_decimal_iff :
    (∃ n, Decimal cs n) ↔ cs ≠ [] ∧ ∀ c ∈ cs, (decimalValue? c).isSome = true := by
  constructor
  · rintro ⟨n, hn, ds, hds, -⟩
    refine ⟨hn, fun c hc => ?_⟩
    have hm := List.mem_map_of_mem (f := decimalValue?) hc
    rw [hds] at hm
    obtain ⟨d, -, hd⟩ := List.mem_map.mp hm
    rw [← hd]
    rfl
  · rintro ⟨hn, h⟩
    refine ⟨_, hn, cs.map fun c => (decimalValue? c).getD 0, ?_, rfl⟩
    rw [List.map_map]
    refine List.map_congr_left fun c hc => ?_
    obtain ⟨d, hd⟩ := Option.isSome_iff_exists.mp (h c hc)
    simp [hd]

theorem Decimal.all (h : Decimal cs n) : ∀ c ∈ cs, (decimalValue? c).isSome = true :=
  (exists_decimal_iff.mp ⟨n, h⟩).2

theorem isDigit_of_decimal {c : Char} (h : (decimalValue? c).isSome = true) :
    isDigit c = true := by
  rw [isDigit, h, Bool.true_or]

end Text

namespace Log
open Text (Decimal decimalValue? digitLimit isDigit)
variable {cs : List Char} {n : Int} {e : LevelError} {s : String}

/-- What is left of a setting: it stands in capitals, without the blanks at its ends. -/
def levelWord (s : String) : List Char := Text.upperName (Text.stripChars s.toList)

/-- Characters that all look like digits. -/
def OnlyDigits (cs : List Char) : Prop := cs ≠ [] ∧ ∀ c ∈ cs, isDigit c = true

theorem onlyDigits_iff : OnlyDigits cs ↔ (!cs.isEmpty && cs.all isDigit) = true := by
  rw [OnlyDigits]
  simp

instance (cs : List Char) : Decidable (OnlyDigits cs) := decidable_of_iff _ onlyDigits_iff.symm

/-- How many decimal digits stand in front of the first other character. -/
def decimals (cs : List Char) : Nat := (cs.takeWhile fun c => (decimalValue? c).isSome).length

/-- Why no number can be read from digits: there are too many in front, or one of them is no decimal
digit. -/
inductive Illegible (cs : List Char) : LevelError → Prop
  | tooLong (h : digitLimit < decimals cs) : Illegible cs (.tooLong (decimals cs))
  | notDecimal (h : decimals cs ≤ digitLimit) (hc : ∃ c ∈ cs, decimalValue? c = none) :
      Illegible cs (.notDecimal (String.ofList cs))

/-! ## Digits -/

theorem decimals_le (cs : List Char) : decimals cs ≤ cs.length :=
  (List.takeWhile_prefix _).length_le

theorem decimals_eq_length (h : ∀ c ∈ cs, (decimalValue? c).isSome = true) :
    decimals cs = cs.length := by
  rw [decimals, List.takeWhile_eq_self_iff.mpr h]

theorem all_decimal_or (cs : List Char) :
    (∀ c ∈ cs, (decimalValue? c).isSome = true) ∨ ∃ c ∈ cs, decimalValue? c = none := by
  by_cases hc : ∃ c ∈ cs, decimalValue? c = none
  · exact .inr hc
  · exact .inl fun c hm => Option.isSome_iff_ne_none.mpr fun hn => hc ⟨c, hm, hn⟩

theorem readDigits_eq (cs : List Char) :
    readDigits cs = if digitLimit < decimals cs then .error (.tooLong (decimals cs))
      else match Text.readDecimal? cs with
        | some n => .ok n
        | none => .error (.notDecimal (String.ofList cs)) := rfl

theorem readDigits_eq_ok_iff :
    readDigits cs = .ok n ↔ ∃ k : Nat, Decimal cs k ∧ cs.length ≤ digitLimit ∧ n = k := by
  rw [readDigits_eq]
  constructor
  · intro h
    split_ifs at h with hl
    cases hr : Text.readDecimal? cs with
    | none => rw [hr] at h; cases h
    | some k =>
      rw [hr] at h
      cases h
      have hd := Text.readDecimal?_eq_some_iff.mp hr
      exact ⟨k, hd, by rw [decimals_eq_length hd.all] at hl; omega, rfl⟩
  · rintro ⟨k, hd, hl, rfl⟩
    rw [decimals_eq_length hd.all, if_neg (by omega), Text.readDecimal?_eq_some_iff.mpr hd]

theorem readDigits_eq_error_iff (hd : OnlyDigits cs) :
    readDigits cs = .error e ↔ Illegible cs e := by
  rw [readDigits_eq]
  constructor
  · intro h
    split_ifs at h with hl
    · cases h
      exact .tooLong hl
    · cases hr : Text.readDecimal? cs with
      | some k => rw [hr] at h; cases h
      | none =>
        rw [hr] at h
        cases h
        refine .notDecimal (by omega) ((all_decimal_or cs).resolve_left fun hall => ?_)
        obtain ⟨k, hk⟩ := Text.exists_decimal_iff.mpr ⟨hd.1, hall⟩
        rw [Text.readDecimal?_eq_some_iff.mpr hk] at hr
        cases hr
  · intro h
    cases h with
    | tooLong hl => rw [if_pos hl]
    | notDecimal hl hc =>
      obtain ⟨c, hm, hn⟩ := hc
      have hr : Text.readDecimal? cs = none := by
        rw [Option.eq_none_iff_forall_ne_some]
        intro k hk
        have hs := (Text.readDecimal?_eq_some_iff.mp hk).all c hm
        rw [hn] at hs
        cases hs
      rw [if_neg (by omega), hr]

theorem exists_illegible_iff :
    (∃ e, Illegible cs e) ↔ (∃ c ∈ cs, decimalValue? c = none) ∨ digitLimit < cs.length := by
  constructor
  · rintro ⟨e, h⟩
    cases h with
    | tooLong h => exact .inr (h.trans_le (decimals_le cs))
    | notDecimal h hc => exact .inl hc
  · intro h
    by_cases hl : digitLimit < decimals cs
    · exact ⟨_, .tooLong hl⟩
    -- Without another character in between, all characters stand in front.
    · refine ⟨_, .notDecimal (by omega) (h.elim id fun hlen => ?_)⟩
      refine (all_decimal_or cs).resolve_left fun hall => ?_
      rw [decimals_eq_length hall] at hl
      exact hl hlen

/-! ## Settings -/

theorem readLevel_some (s : String) : readLevel (some s) =
    if OnlyDigits (levelWord s) then some <$> readDigits (levelWord s)
    else .ok (settingNames.lookup (String.ofList (levelWord s))) := by
  by_cases hs : s = ""
  · subst hs
    rfl
  · rw [readLevel, if_neg hs]
    simp only [onlyDigits_iff]
    rfl

theorem lookup_settingNames {word : String} :
    settingNames.lookup word = some n ↔ (word, n) ∈ settingNames := by
  constructor
  · intro h
    obtain ⟨front, back, hl, -⟩ := List.lookup_eq_some_iff.mp h
    rw [hl]
    exact List.mem_append_cons_self
  · have hall : ∀ entry ∈ settingNames, settingNames.lookup entry.1 = some entry.2 := by decide
    exact hall (word, n)

/-- The name of a level is no number. -/
theorem not_onlyDigits_of_name (h : (String.ofList cs, n) ∈ settingNames) : ¬ OnlyDigits cs := by
  have hall : ∀ entry ∈ settingNames, ¬ OnlyDigits entry.1.toList := by decide +kernel
  simpa only [String.toList_ofList] using hall _ h

theorem readLevel_eq_level_iff {setting : Option String} :
    readLevel setting = .ok (some n) ↔ ∃ s, setting = some s ∧
      ((∃ k : Nat, Decimal (levelWord s) k ∧ (levelWord s).length ≤ digitLimit ∧ n = k) ∨
        (String.ofList (levelWord s), n) ∈ settingNames) := by
  cases setting with
  | none => simp [readLevel]
  | some s =>
    rw [readLevel_some]
    by_cases hd : OnlyDigits (levelWord s)
    · have hn : (String.ofList (levelWord s), n) ∉ settingNames :=
        fun h => not_onlyDigits_of_name h hd
      rw [if_pos hd]
      simp only [Option.some.injEq, exists_eq_left', hn, or_false, ← readDigits_eq_ok_iff]
      cases readDigits (levelWord s) <;> simp
    · have hk : ¬ ∃ k : Nat, Decimal (levelWord s) k ∧ (levelWord s).length ≤ digitLimit ∧
          n = k := by
        rintro ⟨k, hk, -⟩
        exact hd ⟨hk.1, fun c hc => Text.isDigit_of_decimal (hk.all c hc)⟩
      rw [if_neg hd]
      simp [hk, lookup_settingNames]

theorem readLevel_eq_nothing_iff {setting : Option String} :
    readLevel setting = .ok none ↔ ∀ s, setting = some s →
      (∀ n, (String.ofList (levelWord s), n) ∉ settingNames) ∧ ¬ OnlyDigits (levelWord s) := by
  cases setting with
  | none => simp [readLevel]
  | some s =>
    rw [readLevel_some]
    by_cases hd : OnlyDigits (levelWord s)
    · rw [if_pos hd]
      cases readDigits (levelWord s) <;> simp [hd]
    · rw [if_neg hd]
      simp [hd, Option.eq_none_iff_forall_ne_some, lookup_settingNames]

theorem readLevel_eq_error_iff {setting : Option String} :
    readLevel setting = .error e ↔
      ∃ s, setting = some s ∧ OnlyDigits (levelWord s) ∧ Illegible (levelWord s) e := by
  cases setting with
  | none => simp [readLevel]
  | some s =>
    rw [readLevel_some]
    by_cases hd : OnlyDigits (levelWord s)
    · rw [if_pos hd]
      simp only [Option.some.injEq, exists_eq_left', hd, true_and, ← readDigits_eq_error_iff hd]
      cases readDigits (levelWord s) <;> simp
    · rw [if_neg hd]
      simp [hd]

end Log

end RecordSchema
