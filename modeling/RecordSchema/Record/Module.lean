import RecordSchema.Record.Bundled
import RecordSchema.Record.Definition

/-! # The classes of a module

A module makes its classes one after the other. A text that stands for a type may name every class
of the module, also a later one, and every type that is known everywhere.
-/
namespace RecordSchema

def defineAll (module : String) (known : Named RecordClass) :
    List ClassStatement → Except ClassError (Named RecordClass)
  | [] => .ok known
  | s :: rest => do
    let c ← s.define module known
    defineAll module (known.put s.name c) rest

/-- The scope of a module with the given classes. -/
def moduleScope (module : String) (classes : Named RecordClass) : Scope :=
  ⟨module, classes.map (fun c => (c.1, TypeExpr.cls c.2.name)) ++ TypeExpr.known,
    classes.map (fun c => c.2.lineage) ++ [bundledRecord.lineage]⟩

def defineModule (module : String) (statements : List ClassStatement) :
    Except ClassError (Named RecordClass) := do
  let classes ← defineAll module [] statements
  .ok (classes.map fun c => (c.1, { c.2 with scope := moduleScope module classes }))

end RecordSchema
