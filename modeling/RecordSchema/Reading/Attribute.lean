import RecordSchema.Expression.Fault
import RecordSchema.Record.Attribute

/-! # Attributes of types

What stands in the place of a type has attributes too. Those of a class depend on the scope if the
class is made from declarations; a container with arguments mostly answers for its class.
-/
namespace RecordSchema

/-- The class that a container stands for. -/
def Container.origin (f : Container) : ClassName :=
  match f.spelling with
  | "typing.List" => ⟨"builtins", "list"⟩
  | "typing.Tuple" => ⟨"builtins", "tuple"⟩
  | "typing.Dict" => ⟨"builtins", "dict"⟩
  | "typing.FrozenSet" => ⟨"builtins", "frozenset"⟩
  | "typing.Sequence" => ⟨"collections.abc", "Sequence"⟩
  | "typing.Iterable" => ⟨"collections.abc", "Iterable"⟩
  | s => Builtin.classNamed s

namespace TypeExpr

/-- The class of what stands in the place of a type. -/
def classOf : TypeExpr → ClassName
  | value v => Builtin.classOf v
  | synonym .. => ⟨"typing", "NewType"⟩
  | t => Builtin.classNamed t.typeName

def classAttribute? (scope : Scope) (c : ClassName) (name : String) : Option Value :=
  match scope.lineage? c with
  | some lineage => Layer.attribute? lineage name
  | none => Builtin.attribute? (.cls c) name

/-- The arguments of a type that has some. -/
def arguments? : TypeExpr → Option (List TypeExpr)
  | generic _ ts => some ts
  | union ts => some ts
  | pipe ts => some ts
  | _ => none

/-- What a type with arguments says of them. -/
def argumentFact? (t : TypeExpr) (name : String) : Option TypeExpr :=
  t.arguments?.bind fun ts =>
    [("__args__", Value.tuple (ts.map toValue)), ("__parameters__", .tuple [])].lookup name
      |>.map ofValue

def isSpecialName (name : String) : Bool := ['_', '_'].isPrefixOf name.toList

/-- What every object can do. -/
def objectMember? (name : String) : Option TypeExpr :=
  (Builtin.member? ["object"] name).map ofValue

def attribute? (scope : Scope) (t : TypeExpr) (name : String) : Option TypeExpr :=
  if name = "__class__" then some (cls (classOf t))
  else match t with
    | cls c => (classAttribute? scope c name).map ofValue
    | synonym _ c target =>
      if name = "__supertype__" then some target
      else (([("__name__", Value.text (Value.bareName c.name)), ("__qualname__", .text c.name),
          ("__module__", .text c.module)].lookup name).map ofValue).or (objectMember? name)
    | generic f args =>
      if name = "__origin__" then some (cls f.origin)
      else match (generic f args).argumentFact? name with
        | some a => some a
        | none =>
          if f.hinted && isSpecialName name then none
          else (classAttribute? scope f.origin name).map ofValue
    | union _ | pipe _ => (t.argumentFact? name).or (objectMember? name)
    | t => (Builtin.attribute? t.toValue name).map ofValue

/-- How an error names what lacks an attribute. -/
def owner : TypeExpr → String
  | cls c => Builtin.ownerText (.cls c)
  | generic f _ => Builtin.ownerText (.cls f.origin)
  | t => Builtin.ownerText t.toValue

def member (scope : Scope) (t : TypeExpr) (name : String) :
    Except Expression.Fault TypeExpr :=
  match attribute? scope t name with
  | some a => .ok a
  | none => .error (.noAttribute t.owner name)

end TypeExpr

end RecordSchema
