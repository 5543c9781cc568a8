import Mathlib.Data.List.Forall2
import RecordSchema.Log.Record

/-! # Traversals that can fail

A traversal succeeds if every item does, and then has the results in the order of the items. It
fails as the first item that fails, whatever comes behind it.
-/
namespace RecordSchema
variable {ε α β : Type}

theorem map_eq_error_iff {f : α → β} {x : Except ε α} {e : ε} :
    x.map f = .error e ↔ x = .error e := by
  cases x <;> simp [Except.map]

theorem map_eq_ok_iff {f : α → β} {x : Except ε α} {y : β} :
    x.map f = .ok y ↔ ∃ a, x = .ok a ∧ f a = y := by
  cases x <;> simp [Except.map]

theorem map_map {γ : Type} (f : α → β) (g : β → γ) (x : Except ε α) :
    (x.map f).map g = x.map fun a => g (f a) := by
  cases x <;> rfl

theorem mapM_cons_of_ok {f : α → Except ε β} {x : α} {xs : List α} {y : β} (h : f x = .ok y) :
    (x :: xs).mapM f = (xs.mapM f).map (y :: ·) := by
  rw [List.mapM_cons, h]
  cases xs.mapM f <;> rfl

theorem mapM_cons_of_error {f : α → Except ε β} {x : α} {xs : List α} {e : ε}
    (h : f x = .error e) : (x :: xs).mapM f = .error e := by
  rw [List.mapM_cons, h]
  rfl

theorem mapM_eq_ok_iff {f : α → Except ε β} {xs : List α} {ys : List β} :
    xs.mapM f = .ok ys ↔ List.Forall₂ (fun x y => f x = .ok y) xs ys := by
  induction xs generalizing ys with
  | nil => cases ys <;> simp [pure, Except.pure]
  | cons x xs ih =>
    cases hx : f x with
    | error e =>
      rw [mapM_cons_of_error hx]
      cases ys <;> simp [hx]
    | ok y =>
      rw [mapM_cons_of_ok hx]
      cases ys with
      | nil => cases h : xs.mapM f <;> simp [Except.map]
      | cons z zs =>
        rw [List.forall₂_cons, ← ih, hx]
        cases h : xs.mapM f <;> simp [Except.map]

theorem mapM_eq_error_iff {f : α → Except ε β} {xs : List α} {e : ε} :
    xs.mapM f = .error e ↔ ∃ before x after, xs = before ++ x :: after ∧
      (∀ b ∈ before, ∃ y, f b = .ok y) ∧ f x = .error e := by
  induction xs with
  | nil => simp [pure, Except.pure]
  | cons x xs ih =>
    cases hx : f x with
    | error e' =>
      rw [mapM_cons_of_error hx]
      constructor
      · rintro ⟨⟩
        exact ⟨[], x, xs, rfl, by simp, hx⟩
      · rintro ⟨before, y, after, hxs, hb, hy⟩
        -- no item in front of the failing one fails, so nothing stands in front of the head
        cases before with
        | nil => cases hxs; cases hx.symm.trans hy; rfl
        | cons b before =>
          cases hxs
          obtain ⟨z, hz⟩ := hb x List.mem_cons_self
          cases hx.symm.trans hz
    | ok z =>
      rw [mapM_cons_of_ok hx]
      rw [map_eq_error_iff, ih]
      constructor
      · rintro ⟨before, y, after, rfl, hb, hy⟩
        exact ⟨x :: before, y, after, rfl, List.forall_mem_cons.mpr ⟨⟨z, hx⟩, hb⟩, hy⟩
      · rintro ⟨before, y, after, hxs, hb, hy⟩
        cases before with
        | nil => cases hxs; cases hx.symm.trans hy
        | cons b before =>
          cases hxs
          exact ⟨before, y, after, rfl, (List.forall_mem_cons.mp hb).2, hy⟩

/-- Where there is one error only, it does not matter which item it comes from. -/
theorem mapM_eq_error_iff_exists [Subsingleton ε] {f : α → Except ε β} {xs : List α} {e : ε} :
    xs.mapM f = .error e ↔ ∃ x ∈ xs, f x = .error e := by
  induction xs with
  | nil => simp [pure, Except.pure]
  | cons x xs ih =>
    rw [List.exists_mem_cons_iff, ← ih]
    cases hx : f x with
    | error e' => simp [mapM_cons_of_error hx, Subsingleton.elim e' e]
    | ok y => simp [mapM_cons_of_ok hx, map_eq_error_iff]

/-- An item on the right has its partner at the same place on the left. -/
theorem exists_partner {R : α → β → Prop} {xs : List α} {before after : List β} {y : β}
    (h : List.Forall₂ R xs (before ++ y :: after)) :
    ∃ front x back, xs = front ++ x :: back ∧ List.Forall₂ R front before ∧ R x y := by
  induction before generalizing xs with
  | nil =>
    obtain ⟨x, back, hx, -, rfl⟩ := List.forall₂_cons_right_iff.mp h
    exact ⟨[], x, back, rfl, .nil, hx⟩
  | cons z before ih =>
    obtain ⟨w, rest, hw, hr, rfl⟩ := List.forall₂_cons_right_iff.mp h
    obtain ⟨front, x, back, rfl, hf, hx⟩ := ih hr
    exact ⟨w :: front, x, back, rfl, .cons hw hf, hx⟩

theorem forall₂_and {R S : α → β → Prop} {xs : List α} {ys : List β} (hr : List.Forall₂ R xs ys)
    (hs : List.Forall₂ S xs ys) : List.Forall₂ (fun x y => R x y ∧ S x y) xs ys := by
  induction hr with
  | nil => exact .nil
  | cons hx _ ih =>
    cases hs with
    | cons hx' hs => exact .cons ⟨hx, hx'⟩ (ih hs)

theorem map_eq_of_forall₂ {g : α → β} {xs ys : List α}
    (h : List.Forall₂ (fun x y => g y = g x) xs ys) : ys.map g = xs.map g := by
  induction h with
  | nil => rfl
  | cons hx _ ih => rw [List.map_cons, List.map_cons, hx, ih]

theorem forall₂_imp_mem {R S : α → β → Prop} {xs : List α} {ys : List β}
    (h : List.Forall₂ R xs ys) (hi : ∀ x ∈ xs, ∀ y ∈ ys, R x y → S x y) : List.Forall₂ S xs ys := by
  rw [List.forall₂_iff_zip] at h ⊢
  refine ⟨h.1, fun {x y} hxy => ?_⟩
  obtain ⟨hx, hy⟩ := List.of_mem_zip hxy
  exact hi x hx y hy (h.2 hxy)

theorem exists_mem_left {R : α → β → Prop} {xs : List α} {ys : List β}
    (h : List.Forall₂ R xs ys) {y : β} (hy : y ∈ ys) : ∃ x ∈ xs, R x y := by
  obtain ⟨before, after, rfl⟩ := List.append_of_mem hy
  obtain ⟨front, x, back, rfl, -, hx⟩ := exists_partner h
  exact ⟨x, by simp, hx⟩

end RecordSchema
