import RecordSchema.Path
import RecordSchema.Proofs.Terminal.Plain
import RecordSchema.Text.Filling

/-! # Cutting and filling without escapes

Pieces of a text, the lines that its words fill and the way it is shortened hold no characters but
those of the text, blanks and points.
-/
namespace RecordSchema
open Terminal (IsPlain escape isPlain_append isPlain_literal isPlain_ofList isPlain_intercalate)

namespace Text
variable {s : String} {cs : List Char}

theorem escape_not_mem_of_mem_splitBy {p : Char → Bool} (h : escape ∉ cs) :
    ∀ piece ∈ splitBy p cs, escape ∉ piece := by
  induction cs with
  | nil => simp [splitBy]
  | cons c cs ih =>
    have hc : escape ≠ c := fun e => h (e ▸ List.mem_cons_self)
    have ih := ih fun m => h (List.mem_cons_of_mem c m)
    rw [splitBy]
    split_ifs
    · exact List.forall_mem_cons.mpr ⟨List.not_mem_nil, ih⟩
    · cases hp : splitBy p cs with
      | nil => simpa using hc
      | cons piece pieces =>
        rw [hp] at ih
        obtain ⟨hpiece, hpieces⟩ := List.forall_mem_cons.mp ih
        refine List.forall_mem_cons.mpr ⟨?_, hpieces⟩
        simp [hc, hpiece]

theorem isPlain_of_mem_splitAtChar (h : IsPlain s) (sep : Char) :
    ∀ piece ∈ splitAtChar sep s, IsPlain piece := by
  intro piece hp
  obtain ⟨cs, hc, rfl⟩ := List.mem_map.mp hp
  exact isPlain_ofList.mpr (escape_not_mem_of_mem_splitBy h cs hc)

theorem isPlain_of_cutFirst? {sep : Char} {front back : String} (h : IsPlain s)
    (hc : cutFirst? sep s = some (front, back)) : IsPlain back := by
  unfold cutFirst? at hc
  have hd := List.dropWhile_suffix (· != sep) (l := s.toList)
  cases hr : s.toList.dropWhile (· != sep) with
  | nil => simp [hr] at hc
  | cons c rest =>
    simp only [hr, Option.some.injEq, Prod.mk.injEq] at hc
    rw [← hc.2, isPlain_ofList]
    intro he
    exact h (hd.subset (hr ▸ List.mem_cons_of_mem c he))

theorem isPlain_blanks (n : Nat) : IsPlain (blanks n) := by
  have hb : escape ≠ ' ' := by decide
  rw [blanks, isPlain_ofList]
  simp [List.mem_replicate, hb]

theorem not_mem_padEnd {a : Char} (ha : a ≠ ' ') (h : a ∉ cs) (width : Nat) :
    a ∉ padEnd width cs := by
  simp [padEnd, h, List.mem_replicate, ha]

theorem isPlain_padded (h : IsPlain s) (width : Nat) : IsPlain (padded width s) := by
  rw [padded, isPlain_ofList]
  exact not_mem_padEnd (by decide) h width

theorem isPlain_fillFrom {width : Nat} {line : String} {ws : List String} (hl : IsPlain line)
    (hw : ∀ w ∈ ws, IsPlain w) : ∀ l ∈ fillFrom width line ws, IsPlain l := by
  induction ws generalizing line with
  | nil => simpa [fillFrom] using hl
  | cons w ws ih =>
    obtain ⟨hw, hws⟩ := List.forall_mem_cons.mp hw
    rw [fillFrom]
    split_ifs
    · have hlw : IsPlain (line ++ " " ++ w) := by
        simp only [isPlain_append]
        exact ⟨⟨hl, isPlain_literal rfl⟩, hw⟩
      exact ih hlw hws
    · exact List.forall_mem_cons.mpr ⟨hl, ih hw hws⟩

theorem isPlain_fill (h : IsPlain s) (width : Nat) : ∀ l ∈ fill width s, IsPlain l := by
  have hw : ∀ w ∈ words s, IsPlain w := isPlain_of_mem_splitAtChar h ' '
  unfold fill
  cases hs : words s with
  | nil => simp
  | cons w ws =>
    rw [hs] at hw
    obtain ⟨hw, hws⟩ := List.forall_mem_cons.mp hw
    exact isPlain_fillFrom hw hws

theorem isPlain_shorten (h : IsPlain s) (width : Nat) : IsPlain (shorten width s) := by
  unfold shorten
  split_ifs
  · exact h
  · refine isPlain_append.mpr ⟨isPlain_intercalate (isPlain_literal rfl) fun w hw => ?_,
      isPlain_literal rfl⟩
    exact isPlain_of_mem_splitAtChar h ' ' w (List.mem_of_mem_take hw)

end Text

/-! ## Paths -/

/-- No part of the path has an escape. -/
structure Path.IsPlain (p : Path) : Prop where
  root : Terminal.IsPlain p.root
  parts : ∀ part ∈ p.parts, Terminal.IsPlain part

theorem Path.isPlain_ofText {s : String} (h : Terminal.IsPlain s) : (ofText s).IsPlain := by
  constructor
  · show Terminal.IsPlain (rootOf s.toList)
    unfold rootOf
    split <;> exact isPlain_literal rfl
  · intro part hp
    exact Text.isPlain_of_mem_splitAtChar h '/' part (List.mem_of_mem_filter hp)

theorem Path.IsPlain.text {p : Path} (h : p.IsPlain) : Terminal.IsPlain p.text := by
  unfold Path.text
  split_ifs
  · exact isPlain_literal rfl
  · exact isPlain_append.mpr ⟨h.root, isPlain_intercalate (isPlain_literal rfl) h.parts⟩

theorem Path.IsPlain.child {p : Path} (h : p.IsPlain) {name : String}
    (hn : Terminal.IsPlain name) : (p.child name).IsPlain := by
  refine ⟨h.root, fun part hp => ?_⟩
  rcases List.mem_append.mp hp with hp | hp
  · exact h.parts part hp
  · exact List.mem_singleton.mp hp ▸ hn

end RecordSchema
