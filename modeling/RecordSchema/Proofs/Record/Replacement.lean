import RecordSchema.Proofs.Agreement
import RecordSchema.Proofs.Named
import RecordSchema.Record.Descriptor

/-! # Replacing a declared type

A class whose declarations are read as those of another one, except that one name is declared with
another type, has the same types under all other names; and if some declaration cannot be read, both
fail on it alike. Which declaration of the name counts is that of the nearest class, and there the
last.
-/
namespace RecordSchema
variable {scope scope' : Scope} {p p' : Standpoint} {name : String} {t t' : TypeExpr}
  {hints hints' : Named TypeExpr} {ds ds' : List Declaration} {ls ls' : List Layer}

/-- Two declarations of one name whose types mean the same, each where it stands. -/
def ReadAlike (p p' : Standpoint) (d d' : Declaration) : Prop :=
  d'.name = d.name ∧ d'.type.meaning p' = d.type.meaning p

inductive LineagesReadAlike (scope scope' : Scope) : List Layer → List Layer → Prop
  | nil : LineagesReadAlike scope scope' [] []
  | cons {l l' : Layer} {ls ls' : List Layer}
      (hl : List.Forall₂ (ReadAlike ⟨scope, l :: ls⟩ ⟨scope', l' :: ls'⟩) l.declarations
        l'.declarations)
      (hls : LineagesReadAlike scope scope' ls ls') :
      LineagesReadAlike scope scope' (l :: ls) (l' :: ls')

/-- Declarations that are read alike but for the last one of a name, which is read as `t` on one
side and as `t'` on the other. -/
inductive ReplacedAmong (p p' : Standpoint) (name : String) (t t' : TypeExpr) :
    List Declaration → List Declaration → Prop
  | here {d d' : Declaration} {ds ds' : List Declaration} (hn : d.name = name)
      (hn' : d'.name = name) (ht : d.type.meaning p = .ok t) (ht' : d'.type.meaning p' = .ok t')
      (hds : List.Forall₂ (ReadAlike p p') ds ds') (hlast : ∀ e ∈ ds, e.name ≠ name) :
      ReplacedAmong p p' name t t' (d :: ds) (d' :: ds')
  | later {d d' : Declaration} {ds ds' : List Declaration} (hd : ReadAlike p p' d d')
      (h : ReplacedAmong p p' name t t' ds ds') : ReplacedAmong p p' name t t' (d :: ds) (d' :: ds')

/-- Lineages that are read alike but for the nearest declaration of a name. -/
inductive ReplacedIn (scope scope' : Scope) (name : String) (t t' : TypeExpr) :
    List Layer → List Layer → Prop
  | here {l l' : Layer} {ls ls' : List Layer}
      (h : ReplacedAmong ⟨scope, l :: ls⟩ ⟨scope', l' :: ls'⟩ name t t' l.declarations
        l'.declarations)
      (hls : LineagesReadAlike scope scope' ls ls') :
      ReplacedIn scope scope' name t t' (l :: ls) (l' :: ls')
  | farther {l l' : Layer} {ls ls' : List Layer}
      (hl : List.Forall₂ (ReadAlike ⟨scope, l :: ls⟩ ⟨scope', l' :: ls'⟩) l.declarations
        l'.declarations)
      (hn : ∀ d ∈ l.declarations, d.name ≠ name) (h : ReplacedIn scope scope' name t t' ls ls') :
      ReplacedIn scope scope' name t t' (l :: ls) (l' :: ls')

def SameElsewhere (name : String) (hints hints' : Named TypeExpr) : Prop :=
  ∀ n, n ≠ name → hints'.lookup n = hints.lookup n

/-- The types that names are read with, with the one of `name` replaced. -/
structure HintsReplaced (name : String) (t t' : TypeExpr) (hints hints' : Named TypeExpr) :
    Prop where
  here : hints.lookup name = some t
  here' : hints'.lookup name = some t'
  elsewhere : SameElsewhere name hints hints'

theorem SameElsewhere.put (h : SameElsewhere name hints hints') (n : String) (u : TypeExpr) :
    SameElsewhere name (hints.put n u) (hints'.put n u) := by
  intro m hm
  rw [Named.lookup_put, Named.lookup_put, h m hm]

theorem SameElsewhere.replaced (h : SameElsewhere name hints hints') (t t' : TypeExpr) :
    HintsReplaced name t t' (hints.put name t) (hints'.put name t') := by
  refine ⟨?_, ?_, fun n hn => ?_⟩
  · rw [Named.lookup_put, if_pos rfl]
  · rw [Named.lookup_put, if_pos rfl]
  · rw [Named.lookup_put, Named.lookup_put, if_neg hn, if_neg hn, h n hn]

theorem HintsReplaced.put (h : HintsReplaced name t t' hints hints') {n : String} (hn : n ≠ name)
    (u : TypeExpr) : HintsReplaced name t t' (hints.put n u) (hints'.put n u) := by
  refine ⟨?_, ?_, h.elsewhere.put n u⟩
  · rw [Named.lookup_put, if_neg hn.symm, h.here]
  · rw [Named.lookup_put, if_neg hn.symm, h.here']

theorem readHints_agree {R : Named TypeExpr → Named TypeExpr → Prop}
    (hds : List.Forall₂ (ReadAlike p p') ds ds')
    (hput : ∀ d ∈ ds, ∀ hints hints' u, R hints hints' →
      R (hints.put d.name u) (hints'.put d.name u))
    (h : R hints hints') : Agree R (readHints p hints ds) (readHints p' hints' ds') := by
  induction hds generalizing hints hints' with
  | nil => exact .yields h
  | cons hd _ ih =>
    obtain ⟨hput, hputs⟩ := List.forall_mem_cons.mp hput
    rw [readHints, readHints, hd.1, hd.2]
    refine (agree_of_eq rfl).bind fun u u' _ _ hu => ?_
    cases hu
    exact ih hputs (hput _ _ u h)

theorem readHints_replaced (hds : ReplacedAmong p p' name t t' ds ds')
    (h : SameElsewhere name hints hints') :
    Agree (HintsReplaced name t t') (readHints p hints ds) (readHints p' hints' ds') := by
  induction hds generalizing hints hints' with
  | here hn hn' ht ht' hds hlast =>
    rw [readHints, readHints, ht, ht', ok_bind, ok_bind, hn, hn']
    exact readHints_agree hds (fun d hd _ _ u h => h.put (hlast d hd) u) (h.replaced t t')
  | later hd _ ih =>
    rw [readHints, readHints, hd.1, hd.2]
    refine (agree_of_eq rfl).bind fun u u' _ _ hu => ?_
    cases hu
    exact ih (h.put _ u)

theorem lineageHints_eq (h : LineagesReadAlike scope scope' ls ls') :
    lineageHints scope' ls' = lineageHints scope ls := by
  refine (Agree.eq (R := Eq) ?_ fun _ _ h => h).symm
  induction h with
  | nil => exact .yields rfl
  | cons hl _ ih =>
    rw [lineageHints, lineageHints]
    exact ih.bind fun hints hints' _ _ h =>
      readHints_agree hl (fun d _ _ _ u h => by rw [h]) h

theorem lineageHints_replaced (h : ReplacedIn scope scope' name t t' ls ls') :
    Agree (HintsReplaced name t t') (lineageHints scope ls) (lineageHints scope' ls') := by
  induction h with
  | here h hls =>
    rw [lineageHints, lineageHints, lineageHints_eq hls]
    refine (agree_of_eq rfl).bind fun hints hints' _ _ heq => ?_
    cases heq
    exact readHints_replaced h fun _ _ => rfl
  | farther hl hn _ ih =>
    rw [lineageHints, lineageHints]
    exact ih.bind fun hints hints' _ _ h =>
      readHints_agree hl (fun d hd _ _ u h => h.put (hn d hd) u) h

/-- The second class is the first with the declared type of one name replaced. Its fields have the
same names and metadata; they may differ in what values they start with. -/
structure TypeReplaced (c c' : RecordClass) (name : String) (t t' : TypeExpr) : Prop where
  name_eq : c'.name = c.name
  fields : List.Forall₂ (fun f f' : Field => f'.name = f.name ∧ f'.spec.metadata = f.spec.metadata)
    c.fields c'.fields
  lineage : ReplacedIn c.scope c'.scope name t t' c.lineage c'.lineage

theorem TypeReplaced.hints_agree {c c' : RecordClass} (h : TypeReplaced c c' name t t') :
    Agree (HintsReplaced name t t') c.hints c'.hints := by
  have ha := lineageHints_replaced h.lineage
  unfold RecordClass.hints
  rw [h.name_eq]
  generalize lineageHints c.scope c.lineage = x at ha ⊢
  generalize lineageHints c'.scope c'.lineage = x' at ha ⊢
  cases ha with
  | fails e => exact .fails _
  | yields h => exact .yields h

end RecordSchema
