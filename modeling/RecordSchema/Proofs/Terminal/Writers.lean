import RecordSchema.JsonValue
import RecordSchema.Proofs.Terminal.Plain
import RecordSchema.Toml.Writer

/-! # Writers that leave no escape

JSON and TOML write an escape by its code, so whatever values they are given, no control sequence
comes of them.
-/
namespace RecordSchema
open Terminal (IsPlain escape isPlain_append isPlain_literal isPlain_ofList isPlain_join
  isPlain_intercalate escape_not_mem_hex)

theorem mem_of_lookup {α β : Type} [BEq α] [LawfulBEq α] {entries : List (α × β)} {a : α} {b : β}
    (h : entries.lookup a = some b) : (a, b) ∈ entries := by
  obtain ⟨front, back, rfl, -⟩ := List.lookup_eq_some_iff.mp h
  exact List.mem_append_cons_self

/-! ## JSON -/

namespace JsonValue

theorem escape_not_mem_escapeUnit (n : Nat) : escape ∉ escapeUnit n := by
  have hb : escape ≠ '\\' := by decide
  have hu : escape ≠ 'u' := by decide
  simp [escapeUnit, hb, hu, escape_not_mem_hex]

theorem escape_not_mem_escapeChar (c : Char) : escape ∉ escapeChar c := by
  have hs : ∀ e : Char × Char, e ∈ shortEscapes → escape ∉ ['\\', e.2] := by decide
  unfold escapeChar
  cases hl : shortEscapes.lookup c with
  | some e => exact hs (c, e) (mem_of_lookup hl)
  | none =>
    simp only
    split_ifs with hc
    · rw [List.mem_singleton]
      rintro rfl
      exact absurd hc.1 (by decide)
    · unfold escapeCode
      split_ifs <;> simp [escape_not_mem_escapeUnit]

theorem isPlain_quotedText (s : String) : IsPlain (quotedText s) := by
  have hq : escape ≠ '\x22' := by decide
  rw [quotedText, isPlain_ofList]
  simp [hq, escape_not_mem_escapeChar]

theorem isPlain_indentation (depth : Nat) : IsPlain (indentation depth) := by
  have hb : escape ≠ ' ' := by decide
  rw [indentation, isPlain_ofList]
  simp [List.mem_replicate, hb]

theorem isPlain_lineStart (depth : Option Nat) : IsPlain (lineStart depth) := by
  cases depth with
  | none => exact isPlain_literal rfl
  | some depth => exact isPlain_append.mpr ⟨isPlain_literal rfl, isPlain_indentation depth⟩

theorem isPlain_separator (depth : Option Nat) : IsPlain (separator depth) := by
  cases depth with
  | none => exact isPlain_literal rfl
  | some depth => exact isPlain_append.mpr ⟨isPlain_literal rfl, isPlain_lineStart _⟩

theorem isPlain_bracketed {opening closing : String} {parts : List String} (ho : IsPlain opening)
    (hc : IsPlain closing) (depth : Option Nat) (hp : ∀ s ∈ parts, IsPlain s) :
    IsPlain (bracketed opening closing depth parts) := by
  unfold bracketed
  split_ifs
  · exact isPlain_append.mpr ⟨ho, hc⟩
  · have hi := isPlain_intercalate (isPlain_separator (depth.map (· + 1))) hp
    simp only [isPlain_append]
    exact ⟨⟨⟨⟨ho, isPlain_lineStart _⟩, hi⟩, isPlain_lineStart depth⟩, hc⟩

mutual

theorem isPlain_write (depth : Option Nat) : ∀ v : JsonValue, IsPlain (write depth v)
  | bool b => by
    rw [write]
    cases b <;> exact isPlain_literal rfl
  | number n => by
    rw [write, Int.toString_eq_repr]
    exact Terminal.isPlain_repr_int n
  | text s => by
    rw [write]
    exact isPlain_quotedText s
  | array items => by
    rw [write]
    exact isPlain_bracketed (isPlain_literal rfl) (isPlain_literal rfl) depth
      (isPlain_writeItems _ items)
  | object entries => by
    rw [write]
    exact isPlain_bracketed (isPlain_literal rfl) (isPlain_literal rfl) depth
      (isPlain_writeEntries _ entries)

theorem isPlain_writeItems (depth : Option Nat) :
    ∀ vs : List JsonValue, ∀ s ∈ writeItems depth vs, IsPlain s
  | [] => by simp [writeItems]
  | v :: vs => by
    rw [writeItems]
    exact List.forall_mem_cons.mpr ⟨isPlain_write depth v, isPlain_writeItems depth vs⟩

theorem isPlain_writeEntries (depth : Option Nat) :
    ∀ es : List (String × JsonValue), ∀ s ∈ writeEntries depth es, IsPlain s
  | [] => by simp [writeEntries]
  | (k, v) :: es => by
    have hk : IsPlain (quotedText k ++ ": " ++ write depth v) := by
      simp only [isPlain_append]
      exact ⟨⟨isPlain_quotedText k, isPlain_literal rfl⟩, isPlain_write depth v⟩
    rw [writeEntries]
    exact List.forall_mem_cons.mpr ⟨hk, isPlain_writeEntries depth es⟩

end

theorem isPlain_indented (v : JsonValue) : IsPlain v.indented := isPlain_write _ v

theorem isPlain_onOneLine (v : JsonValue) : IsPlain v.onOneLine := isPlain_write _ v

end JsonValue

/-! ## TOML -/

namespace Toml

theorem escape_not_mem_escapeText (c : Char) : escape ∉ escapeText c := by
  have hs : ∀ e : Char × Char, e ∈ shortEscapes → escape ∉ ['\\', e.2] := by decide
  have hb : escape ≠ '\\' := by decide
  have hu : escape ≠ 'u' := by decide
  unfold escapeText
  cases hl : shortEscapes.lookup c with
  | some e => exact hs (c, e) (mem_of_lookup hl)
  | none =>
    simp only
    split_ifs with hc
    · simp [hb, hu, escape_not_mem_hex]
    · rw [List.mem_singleton]
      rintro rfl
      exact hc (.inl (by decide))

theorem isPlain_quotedText (s : String) : IsPlain (quotedText s) := by
  have hq : escape ≠ '\x22' := by decide
  rw [quotedText, isPlain_ofList]
  simp [hq, escape_not_mem_escapeText]

theorem isPlain_keyText (k : String) : IsPlain (keyText k) := by
  unfold keyText
  split_ifs with hk
  · rw [Bool.and_eq_true, List.all_eq_true] at hk
    intro he
    exact absurd (hk.2 escape he) (by decide)
  · exact isPlain_quotedText k

/-- A table of texts is written without an escape. -/
theorem isPlain_render {t : Table} (h : ∀ e ∈ t, ∃ s, e.2 = .text s) : IsPlain (render t) := by
  refine isPlain_join fun line hl => ?_
  obtain ⟨e, he, rfl⟩ := List.mem_map.mp hl
  obtain ⟨s, hs⟩ := h e he
  rw [entryText, hs]
  simp only [valueText?, isPlain_append]
  exact ⟨⟨⟨isPlain_keyText e.1, isPlain_literal rfl⟩, isPlain_quotedText s⟩, isPlain_literal rfl⟩

end Toml

end RecordSchema
