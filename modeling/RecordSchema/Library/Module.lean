import RecordSchema.Reading.Evaluation
import RecordSchema.Library.Object
import RecordSchema.Record.Module

/-! # Modules

A module gives names to objects. A library is a list of modules, some of which are packages: only
they can have modules below them.
-/
namespace RecordSchema

namespace Library

structure Module where
  name : String
  isPackage : Bool := false
  members : Named Object := []
deriving Repr

/-- What a module is made from: classes, instances of them, values, and groups of earlier names. -/
structure ModuleStatement where
  name : String
  classes : List ClassStatement := []
  instances : List (String × String × Named Value) := []
  values : Named Value := []
  groups : List (String × List (String × String)) := []
deriving Repr

inductive ModuleError where
  | badClass (e : ClassError)
  | badInstance (e : InstanceError)
  | unknownName (name : String)
deriving DecidableEq, Repr

def addInstances (classes : Named RecordClass) (members : Named Object) :
    List (String × String × Named Value) → Except ModuleError (Named Object)
  | [] => .ok members
  | (name, className, given) :: rest =>
    match classes.lookup className with
    | none => .error (.unknownName className)
    | some c =>
      match c.make given with
      | .error e => .error (.badInstance e)
      | .ok i => addInstances classes (members.put name (.instance i)) rest

def groupMembers (members : Named Object) :
    List (String × String) → Except ModuleError (List (String × Object))
  | [] => .ok []
  | (key, name) :: rest =>
    match members.lookup name with
    | none => .error (.unknownName name)
    | some o => ((key, o) :: ·) <$> groupMembers members rest

def addGroups (module : String) (members : Named Object) :
    List (String × List (String × String)) → Except ModuleError (Named Object)
  | [] => .ok members
  | (name, entries) :: rest => do
    let inner ← groupMembers members entries
    let described := inner ++ [("__doc__", .value .null)]
    addGroups module (members.put name (.ofClass ⟨module, name⟩ described)) rest

/-- The types that every module knows by name. -/
def knownMembers : Named Object :=
  TypeExpr.known.map fun (name, t) =>
    (name, if t.isClass TypeExpr.bundledClass then .cls bundledRecord else .ofType t)

/-- What a module says about itself. -/
def moduleFacts (name : String) : Named Object :=
  (Standpoint.moduleFacts name).map fun f => (f.1, .value f.2)

def ModuleStatement.define (s : ModuleStatement) : Except ModuleError Module := do
  let classes ← (defineModule s.name s.classes).mapError .badClass
  let members := Named.putAll (moduleFacts s.name ++ knownMembers) (classes.map fun c => (c.1, .cls c.2))
  let members ← addInstances classes members s.instances
  let members := members.putAll (s.values.map fun v => (v.1, .value v.2))
  let members ← addGroups s.name members s.groups
  return { name := s.name, members := members }

end Library

abbrev Library := List Library.Module

namespace Library

def module? (library : Library) (name : String) : Option Module :=
  library.find? fun m => m.name == name

end Library

end RecordSchema
