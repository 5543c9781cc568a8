import RecordSchema.Proofs.Traversal

/-! # Two runs side by side

Two computations agree if both fail with one error, or both succeed with results that are related.
Agreement passes through one computation after another and through traversals, item by item.
-/
namespace RecordSchema
variable {ε α α' β β' : Type}

inductive Agree (R : α → α' → Prop) : Except ε α → Except ε α' → Prop
  | fails (e : ε) : Agree R (.error e) (.error e)
  | yields {a : α} {a' : α'} (h : R a a') : Agree R (.ok a) (.ok a')

namespace Agree
variable {R : α → α' → Prop} {S : β → β' → Prop} {x : Except ε α} {x' : Except ε α'}

theorem mono {R' : α → α' → Prop} (h : Agree R x x') (hR : ∀ a a', R a a' → R' a a') :
    Agree R' x x' := by
  cases h with
  | fails e => exact .fails e
  | yields h => exact .yields (hR _ _ h)

theorem bind {f : α → Except ε β} {f' : α' → Except ε β'} (h : Agree R x x')
    (hf : ∀ a a', x = .ok a → x' = .ok a' → R a a' → Agree S (f a) (f' a')) :
    Agree S (x >>= f) (x' >>= f') := by
  cases h with
  | fails e => exact .fails e
  | yields h => exact hf _ _ rfl rfl h

theorem map {f : α → β} {f' : α' → β'} (h : Agree R x x')
    (hf : ∀ a a', R a a' → S (f a) (f' a')) : Agree S (x.map f) (x'.map f') := by
  cases h with
  | fails e => exact .fails e
  | yields h => exact .yields (hf _ _ h)

/-- What related results have in common is the same in both runs. -/
theorem map_eq {f : α → β} {f' : α' → β} (h : Agree R x x') (hf : ∀ a a', R a a' → f a = f' a') :
    x.map f = x'.map f' := by
  cases h with
  | fails e => rfl
  | yields h => exact congrArg Except.ok (hf _ _ h)

theorem eq {R : α → α → Prop} {x x' : Except ε α} (h : Agree R x x')
    (hR : ∀ a a', R a a' → a = a') : x = x' := by
  cases h with
  | fails e => rfl
  | yields h => exact congrArg Except.ok (hR _ _ h)

end Agree

theorem agree_of_eq {x x' : Except ε α} (h : x = x') : Agree Eq x x' := by
  subst h
  cases x with
  | error e => exact .fails e
  | ok a => exact .yields rfl

/-- Traversals of paired items agree if they agree on every pair. -/
theorem mapM_agree {R : β → β' → Prop} {f : α → Except ε β} {f' : α' → Except ε β'} {xs : List α}
    {xs' : List α'} (h : List.Forall₂ (fun x x' => Agree R (f x) (f' x')) xs xs') :
    Agree (List.Forall₂ R) (xs.mapM f) (xs'.mapM f') := by
  induction h with
  | nil => exact .yields .nil
  | cons hx _ ih =>
    rw [List.mapM_cons, List.mapM_cons]
    refine hx.bind fun y y' _ _ hy => ih.bind fun ys ys' _ _ hys => ?_
    exact .yields (.cons hy hys)

end RecordSchema
