import Mathlib.Data.List.Nodup
import RecordSchema.Proofs.Toml.Line
import RecordSchema.Proofs.Traversal

/-! # Flat tables are read back

A flat table of texts is written one entry a line, and reading what was written gives the table
again: same keys, same texts, same order.
-/
namespace RecordSchema

/-- A flat table that holds texts only. -/
def Table.ofTexts (es : List (String × String)) : Table := es.map fun e => (e.1, .text e.2)

namespace Toml
variable {k : String} {es : List (String × String)}

/-- The entries of a flat table. -/
def flatBody (es : List (String × String)) : Body :=
  es.map fun e => (⟨e.1, false⟩, .leaf (.text e.2))

theorem parts_eq_nil {b : Body} (h : ∀ e ∈ b, e.1.key ≠ k) : b.parts k = [] := by
  rw [Body.parts, List.filterMap_eq_nil_iff]
  exact fun e he => if_neg (h e he)

theorem last?_eq_none {b : Body} (h : ∀ e ∈ b, e.1.key ≠ k) : b.last? k = none := by
  have hf : b.filter (fun e => e.1.key == k) = [] := by
    rw [List.filter_eq_nil_iff]
    exact fun e he => by simp [h e he]
  rw [Body.last?, hf]
  rfl

/-- An entry under a new key is put behind the others. -/
theorem add_of_new {b : Body} {e : Entry} (h : ∀ e' ∈ b, e'.1.key ≠ e.1.key) (n : Nat)
    (strict : Bool) : add (n + 1) strict b e = .ok (b ++ [e]) := by
  rw [add, parts_eq_nil h, last?_eq_none h]
  rfl

theorem addOuter_flatBody (h : k ∉ es.map (·.1)) (s : String) :
    addOuter (flatBody es) (⟨k, false⟩, .leaf (.text s)) = .ok (flatBody (es ++ [(k, s)])) := by
  have hn : ∀ e ∈ flatBody es, e.1.key ≠ k := by
    intro e he hk
    obtain ⟨e', he', rfl⟩ := List.mem_map.mp he
    exact h (List.mem_map.mpr ⟨e', he', hk⟩)
  rw [addOuter, budget, depthLimit, add_of_new hn]
  simp [flatBody, Except.mapError]

theorem entries_nil (put : Body → Entry → Except Fault Body) (n : Nat) (b : Body) :
    entries put n b [] = .ok (b, []) := by
  cases n <;> rfl

theorem render_cons (e : String × String) (es : List (String × String)) :
    (render (.ofTexts (e :: es))).toList =
      (entryText (e.1, .text e.2)).toList ++ (render (.ofTexts es)).toList := by
  simp [render, Table.ofTexts]

/-- Every line adds its entry behind those before it. -/
theorem entries_render {done todo : List (String × String)}
    (hn : ((done ++ todo).map (·.1)).Nodup) {n : Nat} (hl : todo.length ≤ n) :
    entries addOuter n (flatBody done) (render (.ofTexts todo)).toList =
      .ok (flatBody (done ++ todo), []) := by
  induction todo generalizing done n with
  | nil =>
    rw [List.append_nil]
    exact entries_nil addOuter n (flatBody done)
  | cons e todo ih =>
    obtain ⟨n, rfl⟩ : ∃ m, n = m + 1 := ⟨n - 1, by simp at hl; omega⟩
    have hk : e.1 ∉ done.map (·.1) := by
      rw [List.map_append, List.map_cons, List.nodup_append] at hn
      exact fun hk => hn.2.2 _ hk _ List.mem_cons_self rfl
    have hd : done ++ e :: todo = done ++ [e] ++ todo := by simp
    rw [render_cons, entries_entryText, addOuter_flatBody hk, ok_bind, hd]
    exact ih (hd ▸ hn) (by simpa using hl)

theorem eraseDups_of_nodup {ks : List String} (h : ks.Nodup) : ks.eraseDups = ks := by
  induction ks with
  | nil => rfl
  | cons k ks ih =>
    obtain ⟨hk, hn⟩ := List.nodup_cons.mp h
    have hf : ks.filter (fun b => !b == k) = ks := by
      rw [List.filter_eq_self]
      intro b hb
      have hne : b ≠ k := fun e => hk (e ▸ hb)
      simp [hne]
    rw [List.eraseDups_cons, hf, ih hn]

theorem parts_flatBody (hn : (es.map (·.1)).Nodup) {e : String × String} (he : e ∈ es) :
    (flatBody es).parts e.1 = [.leaf (.text e.2)] := by
  induction es with
  | nil => cases he
  | cons e' es ih =>
    obtain ⟨hk, hn⟩ := List.nodup_cons.mp hn
    have hp : (flatBody (e' :: es)).parts e.1 =
        (if e'.1 = e.1 then [.leaf (.text e'.2)] else []) ++ (flatBody es).parts e.1 := by
      by_cases h : e'.1 = e.1 <;> simp [flatBody, Body.parts, h]
    rcases List.mem_cons.mp he with rfl | he
    · have hne : ∀ x ∈ flatBody es, x.1.key ≠ e.1 := by
        intro x hx h
        obtain ⟨y, hy, rfl⟩ := List.mem_map.mp hx
        exact hk (List.mem_map.mpr ⟨y, hy, h⟩)
      rw [hp, if_pos rfl, parts_eq_nil hne, List.append_nil]
    · have hne : e'.1 ≠ e.1 := fun h => hk (List.mem_map.mpr ⟨e, he, h.symm⟩)
      rw [hp, if_neg hne, ih hn he, List.nil_append]

theorem readBody_flatBody (hn : (es.map (·.1)).Nodup) (n : Nat) :
    readBody (n + 2) (flatBody es) = .ok (.ofTexts es) := by
  have hk : (flatBody es).keys = es.map (·.1) := by
    have hm : (flatBody es).map (fun e => e.1.key) = es.map (·.1) := by simp [flatBody]
    rw [Body.keys, hm, eraseDups_of_nodup hn]
  rw [readBody, hk, mapM_eq_ok_iff, Table.ofTexts, List.forall₂_map_left_iff,
    List.forall₂_map_right_iff, List.forall₂_same]
  intro e he
  rw [parts_flatBody hn he]
  rfl

theorem length_le_render (es : List (String × String)) :
    es.length ≤ (render (.ofTexts es)).toList.length := by
  induction es with
  | nil => simp
  | cons e es ih =>
    have hl : 1 ≤ (entryText (e.1, .text e.2)).toList.length := by
      simp only [entryText_toList, List.length_append, List.length_cons]
      omega
    rw [render_cons, List.length_append, List.length_cons]
    omega

/-- A flat table of texts under distinct keys is read back as it was written. -/
theorem parse_render (hn : (es.map (·.1)).Nodup) :
    parse (render (.ofTexts es)) = .ok (.ofTexts es) := by
  have hn' : (List.map Prod.fst ([] ++ es)).Nodup := hn
  have hl : es.length ≤ (render (.ofTexts es)).toList.length + 1 :=
    Nat.le_succ_of_le (length_le_render es)
  have he : entries addOuter ((render (.ofTexts es)).toList.length + 1) []
      (render (.ofTexts es)).toList = .ok (flatBody es, []) := entries_render hn' hl
  rw [parse, he]
  exact readBody_flatBody hn _

/-- Line ends are the only control characters of a written table. -/
theorem eq_newline_of_mem_render {a : Char} (h : a ∈ (render (.ofTexts es)).toList)
    (hc : isControl a = true) : a = '\n' := by
  induction es with
  | nil => simp [render, Table.ofTexts] at h
  | cons e es ih =>
    rw [render_cons, entryText_toList] at h
    simp only [List.mem_append, List.mem_cons, List.not_mem_nil, or_false] at h
    rcases h with (h | rfl | rfl | rfl | h | h) | h
    · rw [isControl_of_mem_keyText h] at hc
      cases hc
    · exact absurd hc (by decide)
    · exact absurd hc (by decide)
    · exact absurd hc (by decide)
    · rw [isControl_of_mem_quotedText h] at hc
      cases hc
    · exact h
    · exact ih h

end Toml

end RecordSchema
