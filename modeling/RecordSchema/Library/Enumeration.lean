import RecordSchema.Builtin.Lookup
import RecordSchema.Named

/-! # Enumerations

A class of labelled values. Every label stands for a text; the labels of a class of texts are texts
themselves. A label knows the other labels of its class, and it may have parts of its own.
-/
namespace RecordSchema

structure Label where
  name : String
  text : String
  parts : Named Value := []
deriving Repr

structure Enumeration where
  name : ClassName
  isText : Bool
  labels : List Label
deriving Repr

namespace Enumeration

def label? (e : Enumeration) (name : String) : Option Label :=
  e.labels.find? fun l => l.name == name

def shown (e : Enumeration) : String := "<enum '" ++ e.name.name ++ "'>"

def shownLabel (e : Enumeration) (l : Label) : String :=
  "<" ++ e.name.name ++ "." ++ l.name ++ ": " ++ Text.quoted l.text ++ ">"

def labelValue (e : Enumeration) (l : Label) : Value :=
  if e.isText then .text l.text else .thing e.name.name (e.shownLabel l)

def textClass : ClassName := ⟨"builtins", "str"⟩

/-- The class that its labels have their values from. -/
def valueClass (e : Enumeration) : ClassName :=
  if e.isText then textClass else ⟨"builtins", "object"⟩

def bases (e : Enumeration) : List ClassName :=
  if e.isText then [textClass, ⟨"enum", "Enum"⟩] else [⟨"enum", "Enum"⟩]

/-- The classes above it, nearest first. -/
def ancestors (e : Enumeration) : List ClassName := e.bases ++ [⟨"builtins", "object"⟩]

def ancestorNames (e : Enumeration) : List String := e.ancestors.map Builtin.fullName

/-- What the class and its labels both tell. -/
def facts (e : Enumeration) : Named Value :=
  [("__module__", .text e.name.module),
    ("_member_names_", .list (e.labels.map fun l => .text l.name)),
    ("_member_map_", .table (e.labels.map fun l => (l.name, e.labelValue l))),
    ("_value2member_map_", .table (e.labels.map fun l => (l.text, e.labelValue l))),
    ("_unhashable_values_", .list []), ("_use_args_", .bool e.isText),
    ("_member_type_", .cls e.valueClass),
    ("_new_member_", Builtin.unattached e.valueClass.name "__new__" .bound),
    ("_missing_", Builtin.boundFunction e.name.name "_missing_")]

/-- What only the class tells. -/
def classFacts (e : Enumeration) : Named Value :=
  [("__class__", .cls ⟨"enum", "EnumType"⟩), ("__bases__", .tuple (e.bases.map .cls)),
    ("__mro__", .tuple ((e.name :: e.ancestors).map .cls)), ("__annotations__", .table []),
    ("__members__", .thing "mappingproxy" "mappingproxy(\x7b\x7d)")]

/-- The functions that the class takes over as its own. -/
def ownFunctions : List String := ["__new__", "__repr__", "__str__", "__format__"]

def isProperty (e : Enumeration) (name : String) : Bool :=
  e.labels.any fun l => (l.parts.lookup name).isSome

/-- An attribute of the class, other than its labels. -/
def attribute? (e : Enumeration) (name : String) : Option Value :=
  if e.isProperty name then some (.thing "property" "<property object>")
  else if ownFunctions.contains name then some (Builtin.functionOf "Enum" name)
  else
    ((e.classFacts.lookup name).or ((e.facts.lookup name).or
      (Builtin.classFact? e.name e.bases.head? name))).or
      ((Builtin.inherited? e.ancestorNames name).or
        (Builtin.member? (Builtin.lineage "enum.EnumType") name))

def indexOf (e : Enumeration) (l : Label) : Nat := e.labels.findIdx fun m => m.name == l.name

/-- What a label keeps. -/
def kept (e : Enumeration) (l : Label) : Named Value :=
  [("_value_", .text l.text), ("_name_", .text l.name), ("__objclass__", .cls e.name),
    ("_sort_order_", .int (e.indexOf l))]

def labelFacts (e : Enumeration) (l : Label) : Named Value :=
  [("name", .text l.name), ("value", .text l.text), ("__dict__", .table (e.kept l)),
    ("__weakref__", .null)] ++ e.kept l ++ l.parts

/-- An attribute of a label, other than the labels of its class. -/
def labelAttribute? (e : Enumeration) (l : Label) (name : String) : Option Value :=
  if ownFunctions.contains name then some (Builtin.boundFunction "Enum" name)
  else
    ((e.labelFacts l).lookup name).or
      ((e.facts.lookup name).or (Builtin.member? e.ancestorNames name))

end Enumeration

end RecordSchema
