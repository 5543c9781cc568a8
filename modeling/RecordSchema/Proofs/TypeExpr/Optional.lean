import RecordSchema.TypeExpr.Form
import RecordSchema.TypeExpr.Kind

/-! # Optional types

A type of some kind that is no union is a class, an alias or a container. Its optional form, in
either notation, is the union of it with the class of absence; taking the optional layer off again
gives back the type itself.
-/
namespace RecordSchema.TypeExpr
variable {t t' : TypeExpr}

def isUnion : TypeExpr → Bool
  | union _ | pipe _ => true
  | _ => false

/-- The optional form of a type, by name or with a bar. -/
def IsOptionalOf (t t' : TypeExpr) : Prop :=
  optionalOf t = .ok t' ∨ bar t noneObject = .ok t'

/-- A type that a field can have and that is no union. -/
structure IsSimple (t : TypeExpr) : Prop where
  kind : t.kind?.isSome
  single : t.isUnion = false

theorem unwrapOptional_of_single (h : t.isUnion = false) : t.unwrapOptional = t := by
  cases t <;> first | rfl | cases h

theorem changeable?_of_isText (h : t.isText) : t.changeable? = none := by
  cases t <;> first | rfl | cases h

namespace IsSimple

/-- What a field can be declared with, unions apart. -/
theorem shape (h : t.IsSimple) : (∃ c, t = cls c ∧ c ≠ ⟨"builtins", "NoneType"⟩) ∨
    (∃ n c target, t = synonym n c target) ∨
    ∃ f args, t = generic f args ∧ (generic f args).isTextSequence := by
  cases t with
  | cls c =>
    refine .inl ⟨c, rfl, ?_⟩
    rintro rfl
    exact absurd h.kind (by decide)
  | synonym n c target => exact .inr (.inl ⟨n, c, target, rfl⟩)
  | generic f args =>
    refine .inr (.inr ⟨f, args, rfl, ?_⟩)
    have hk : (if (generic f args).isTextSequence then some Kind.stringList else none).isSome :=
      h.kind
    cases hs : (generic f args).isTextSequence with
    | true => rfl
    | false => rw [hs] at hk; cases hk
  | union ts => cases h.single
  | pipe ts => cases h.single
  | _ => cases h.kind

theorem isNoneType_eq_false (h : t.IsSimple) : t.isNoneType = false := by
  obtain ⟨c, rfl, hc⟩ | ⟨n, c, target, rfl⟩ | ⟨f, args, rfl, -⟩ := h.shape
  · exact beq_false_of_ne (Ne.symm hc)
  · rfl
  · rfl

theorem asArgument_eq (h : t.IsSimple) (p : TypePosition) : asArgument p t = .ok t := by
  obtain ⟨c, rfl, -⟩ | ⟨n, c, target, rfl⟩ | ⟨f, args, rfl, -⟩ := h.shape <;> rfl

theorem members_eq (h : t.IsSimple) : t.members = [t] := by
  obtain ⟨c, rfl, -⟩ | ⟨n, c, target, rfl⟩ | ⟨f, args, rfl, -⟩ := h.shape <;> rfl

theorem changeable?_eq (h : t.IsSimple) : t.changeable? = none := by
  obtain ⟨c, rfl, -⟩ | ⟨n, c, target, rfl⟩ | ⟨f, args, rfl, ht⟩ := h.shape
  · rfl
  · rfl
  · unfold isTextSequence at ht
    dsimp only at ht
    split at ht
    · simp [changeable?, firstChangeable?, changeable?_of_isText ht]
    · simp [changeable?, firstChangeable?, changeable?_of_isText ht]
    · simp [changeable?, firstChangeable?, changeable?_of_isText ht]
    · cases ht

theorem same_noneType (h : t.IsSimple) : t.same noneType = false := by
  obtain ⟨c, rfl, hc⟩ | ⟨n, c, target, rfl⟩ | ⟨f, args, rfl, -⟩ := h.shape
  · simpa [same, noneType, builtin, isClass] using hc
  · simp [same, noneType, builtin]
  · simp [same, noneType, builtin]

theorem same_noneObject (h : t.IsSimple) : t.same noneObject = false := by
  obtain ⟨c, rfl, -⟩ | ⟨n, c, target, rfl⟩ | ⟨f, args, rfl, -⟩ := h.shape <;>
    simp [same, isClass]

theorem flatMap_members (h : t.IsSimple) : [t, noneType].flatMap members = [t, noneType] := by
  rw [List.flatMap_cons, h.members_eq]
  rfl

theorem distinct_noneType (h : t.IsSimple) : distinct [t, noneType] = [t, noneType] := by
  simp [distinct, occurs, h.same_noneType]

theorem unite_noneType (h : t.IsSimple) : unite [t, noneType] = .ok (union [t, noneType]) := by
  have hf : firstChangeable? [t, noneType] = none := by
    simp [firstChangeable?, h.changeable?_eq, noneType, builtin, changeable?]
  simp [unite, h.flatMap_members, hf, h.distinct_noneType, collapse]

theorem optionalOf_eq (h : t.IsSimple) : optionalOf t = .ok (union [t, noneType]) := by
  unfold optionalOf
  rw [h.asArgument_eq]
  exact h.unite_noneType

theorem bar_eq (h : t.IsSimple) :
    bar t noneObject = .ok (if t.isHinted then union [t, noneType] else pipe [t, noneType]) := by
  have hnone : noneObject.isHinted = false ∧ noneObject.isBarred = true := ⟨rfl, rfl⟩
  cases hh : t.isHinted with
  | true =>
    have ha : asArguments .unionMember [t, noneObject] = .ok [t, noneType] := by
      rw [asArguments, h.asArgument_eq]
      rfl
    have hu : unionOf [t, noneObject] = asArguments .unionMember [t, noneObject] >>= unite := rfl
    rw [bar, hh, hu, ha]
    exact h.unite_noneType
  | false =>
    have hb : t.isBarred = true := by
      obtain ⟨c, rfl, -⟩ | ⟨n, c, target, rfl⟩ | ⟨f, args, rfl, -⟩ := h.shape
      · rfl
      · cases hh
      · simpa [isHinted, isBarred] using hh
    have hn : [t, noneObject].map orNoneType = [t, noneType] := by
      obtain ⟨c, rfl, -⟩ | ⟨n, c, target, rfl⟩ | ⟨f, args, rfl, -⟩ := h.shape <;> rfl
    simp [bar, hh, hb, hnone, hn, h.same_noneObject, h.flatMap_members, h.distinct_noneType,
      collapse]

theorem isOptionalOf_iff (h : t.IsSimple) : IsOptionalOf t t' ↔
    t' = union [t, noneType] ∨ t.isHinted = false ∧ t' = pipe [t, noneType] := by
  rw [IsOptionalOf, h.optionalOf_eq, h.bar_eq]
  cases t.isHinted <;> simp [eq_comm]

theorem present_eq (h : t.IsSimple) :
    [t, noneType].filter (fun m => !m.isNoneType) = [t] := by
  have hn : noneType.isNoneType = true := by decide
  simp [h.isNoneType_eq_false, hn]

end IsSimple

theorem IsOptionalOf.unwrapOptional_eq (ho : IsOptionalOf t t') (h : t.IsSimple) :
    t'.unwrapOptional = t := by
  obtain rfl | ⟨-, rfl⟩ := h.isOptionalOf_iff.mp ho
  · simp only [unwrapOptional, h.present_eq]
  · simp only [unwrapOptional, h.present_eq]

theorem IsOptionalOf.isOptional_eq (ho : IsOptionalOf t t') (h : t.IsSimple) :
    t'.isOptional = true := by
  obtain rfl | ⟨-, rfl⟩ := h.isOptionalOf_iff.mp ho
  · simp only [isOptional, h.present_eq]
    rfl
  · simp only [isOptional, h.present_eq]
    rfl

end RecordSchema.TypeExpr
