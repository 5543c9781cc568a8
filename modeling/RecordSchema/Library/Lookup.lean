import RecordSchema.Library.Module
import RecordSchema.Log.Level
import RecordSchema.Log.Record
import RecordSchema.Text.Cut
import RecordSchema.Text.Quoted

/-! # Looking up a record

A record path names a module and, behind the first colon, the way to an object in it. A module that
is not in the library is reported by the outermost name that is missing.
-/
namespace RecordSchema

namespace Library

inductive ImportError where
  | missing (name : String)
  | notPackage (name parent : String)
deriving DecidableEq, Repr

inductive LoadError where
  | invalidPath (path : String)
  | notImportable (module : String) (cause : ImportError)
  | noAttribute (module path : String)
  /-- A module name that begins with a dot is relative to a package, and there is none. -/
  | relative (module : String)
deriving DecidableEq, Repr

def ImportError.message : ImportError → String
  | .missing name => "No module named " ++ Text.quoted name
  | .notPackage name parent =>
    "No module named " ++ Text.quoted name ++ "; " ++ Text.quoted parent ++ " is not a package"

def LoadError.message : LoadError → String
  | .invalidPath path =>
    "Invalid record path " ++ Text.quoted path ++ ", expected 'module:QualName'"
  | .notImportable module cause =>
    "Cannot import module " ++ Text.quoted module ++ ": " ++ cause.message
  | .noAttribute module path =>
    "Module " ++ Text.quoted module ++ " has no attribute " ++ Text.quoted path
  | .relative module =>
    "the 'package' argument is required to perform a relative import for " ++ Text.quoted module

/-- Whether the cause is a record that cannot be loaded, as opposed to an error that passes
through. -/
def LoadError.isRecordLoad : LoadError → Bool
  | .relative _ => false
  | _ => true

structure RecordPath where
  module : String
  attributes : String
deriving DecidableEq, Repr

/-- Both sides of the first colon, if there is something on each. -/
def RecordPath.ofText? (s : String) : Option RecordPath :=
  match Text.cutFirst? ':' s with
  | some (m, a) => if m = "" ∨ a = "" then none else some ⟨m, a⟩
  | none => none

/-- A dotted name and the names of the packages around it, innermost first. -/
def enclosing (name : String) : List String :=
  let parts := Text.splitAtChar '.' name
  ((List.range parts.length).map fun n => String.intercalate "." (parts.take (n + 1))).reverse

/-- Why the first of the names is not in the library, given the names of the packages around it. -/
def importError (library : Library) : List String → ImportError
  | [] => .missing ""
  | [name] => .missing name
  | name :: parent :: rest =>
    match library.module? parent with
    | some m => if m.isPackage then .missing name else .notPackage name parent
    | none => importError library (parent :: rest)

def isRelative (name : String) : Bool := name.toList.head? == some '.'

def loadModule (library : Library) (name : String) : Except LoadError Module :=
  if isRelative name then .error (.relative name)
  else match library.module? name with
    | some m => .ok m
    | none => .error (.notImportable name (importError library (enclosing name)))

/-- What a path of names leads to in a module. -/
def Module.follow? (m : Module) : List String → Option Object
  | [] => none
  | name :: names => (m.members.lookup name).bind fun o => o.follow? names

def find (library : Library) (path : String) : Except LoadError Object :=
  match RecordPath.ofText? path with
  | none => .error (.invalidPath path)
  | some p => do
    let m ← loadModule library p.module
    match m.follow? (Text.splitAtChar '.' p.attributes) with
    | some o => .ok o
    | none => .error (.noAttribute p.module p.attributes)

def resolve (library : Library) (path : String) : Logged LoadError Object := do
  let o ← Logged.of (library.find path)
  Logged.write Log.debug ("Resolved record " ++ path)
  return o

end Library

end RecordSchema
