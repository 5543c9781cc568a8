import RecordSchema.Builtin.Lookup
import RecordSchema.Record.Class
import RecordSchema.TypeExpr.Display

/-! # Attributes of classes

Beside what it declares, a class has attributes that being a class gives it, and a record class has
those that come with its fields. All of them are values here: a type that is no class is known by
its text.
-/
namespace RecordSchema

namespace TypeExpr

/-- A type as a value. One that cannot be written is known by its class only. -/
def toValue : TypeExpr → Value
  | cls c => .cls c
  | noneObject => .null
  | value v => v
  | forward s => .text s
  | rest => .thing "ellipsis" "Ellipsis"
  | t => .ofText t.typeName t.inner

/-- A type in a list of parameters, where the hinted spellings go without their marks. -/
def inSignature : TypeExpr → Except WriteError String
  | cls c => .ok (if c.module = "typing" then c.name else c.full)
  | generic f args =>
    (if f.hinted then unmarked else id) <$> (generic f args).inner
  | union ts => unmarked <$> (union ts).inner
  | noted t notes => unmarked <$> (noted t notes).inner
  | literal vs => unmarked <$> (literal vs).inner
  | rest => .ok "Ellipsis"
  | t => t.inner

end TypeExpr

def functionObject (name : String) : Value := .thing "function" ("<function " ++ name ++ ">")

/-- What stands where nothing was given. -/
def notGiven : Value := .thing "_MISSING_TYPE" "<dataclasses._MISSING_TYPE object>"

/-- A field as an object. No record class has taken it up yet if it has no name. -/
def FieldSpec.object (s : FieldSpec) (name type keywordOnly role : Value) : Value :=
  .field [("name", name), ("type", type), ("default", s.default.getD notGiven),
    ("default_factory", if s.factory.isSome then functionObject "<lambda>" else notGiven),
    ("init", .bool s.init), ("repr", .bool true), ("hash", .null), ("compare", .bool true),
    ("metadata", .mapping s.metadata), ("kw_only", keywordOnly), ("_field_type", role)]

def Role.object (r : Role) : Value :=
  .thing "_FIELD_BASE" (match r with
    | .field => "_FIELD"
    | .classVariable => "_FIELD_CLASSVAR"
    | .initVariable => "_FIELD_INITVAR")

def Field.object (f : Field) (type : TypeExpr) : Value :=
  f.spec.object (.text f.name) type.toValue
    (if f.role = .classVariable then notGiven else .bool true) f.role.object

def Attribute.toValue : Attribute → Value
  | value v => v
  | spec s => s.object .null .null notGiven .null

namespace Layer

/-- The type that a field is declared with nearest to the class. -/
def typeIn (lineage : List Layer) (name : String) : TypeExpr :=
  (lineage.findSome? fun l =>
    (l.declarations.find? fun d => d.name == name).map (·.type)).getD .noneObject

/-- A parameter of the initializer: its name, its type and what it is when it is not given. -/
def parameterText (lineage : List Layer) (f : Field) : Except WriteError String := do
  let type ← (typeIn lineage f.name).inSignature
  let given ← match f.spec.default, f.spec.factory with
    | some v, _ => (" = " ++ ·) <$> v.shown
    | none, some _ => .ok " = <factory>"
    | none, none => .ok ""
  return f.name ++ ": " ++ type ++ given

/-- How the instances of a record class are made. -/
def signature (lineage : List Layer) (l : Layer) : Except WriteError String := do
  let fields := ((l.table.getD []).map (·.2)).filter Field.isParameter
  let parameters ← fields.mapM (parameterText lineage)
  return "(" ++ (if parameters.isEmpty then "" else String.intercalate ", " ("*" :: parameters)) ++ ")"

/-- What a record class says about itself: how its instances are made, if that can be written. -/
def summary (lineage : List Layer) (l : Layer) : String :=
  match l.signature lineage with
  | .ok s => l.name.name ++ s
  | .error _ => l.name.name

def annotations (l : Layer) : Value :=
  .table (l.declarations.map fun d => (d.name, d.type.toValue))

/-- What comes with the fields of a record. -/
def recordMembers (lineage : List Layer) (l : Layer) : Named Value :=
  let functions := fun (names : List String) =>
    names.map fun n => (n, functionObject (l.name.name ++ "." ++ n))
  functions ["__init__", "__repr__", "__eq__"] ++
    (if l.frozen then functions ["__hash__", "__setattr__", "__delattr__"]
      else [("__hash__", .null)]) ++
    [("__match_args__", .tuple []),
      ("__dataclass_fields__",
        .table ((l.table.getD []).map fun f => (f.1, f.2.object (typeIn lineage f.1)))),
      ("__dataclass_params__", .thing "_DataclassParams" "_DataclassParams()")]

/-- What only the outermost class of a lineage has. -/
def rootMembers (l : Layer) : Named Value :=
  ["__dict__", "__weakref__"].map fun n => (n, Builtin.unattached l.name.name n .computed)

/-- What the class itself holds under names. -/
def members (lineage : List Layer) (l : Layer) : Named Value :=
  l.attributes.map (fun a => (a.1, a.2.toValue)) ++
    (if l.isRecord then l.recordMembers lineage else []) ++
    (if l.bases.isEmpty then l.rootMembers else []) ++
    [("__module__", .text l.name.module),
      ("__doc__", if l.isRecord then .text (l.summary lineage) else .null)] ++
    (if l.declarations.isEmpty then [] else [("__annotations__", l.annotations)])

/-- What a lineage holds under a name, nearest first. -/
def held? (lineage : List Layer) (name : String) : Option Value :=
  match lineage with
  | [] => none
  | l :: rest => ((l.members lineage).lookup name).or (held? rest name)

/-- What a class tells about itself before anything that it holds. -/
def facts (lineage : List Layer) (l : Layer) : Named Value :=
  let ancestors := lineage.map fun l => Value.cls l.name
  let object := Value.cls ⟨"builtins", "object"⟩
  let bases := if l.bases.isEmpty then [object] else l.bases.map .cls
  [("__name__", .text l.name.name), ("__qualname__", .text l.name.name),
    ("__class__", .cls ⟨"builtins", "type"⟩), ("__bases__", .tuple bases),
    ("__base__", bases.headD object), ("__mro__", .tuple (ancestors ++ [object])),
    ("__dict__", .thing "mappingproxy" "mappingproxy(\x7b\x7d)"),
    ("__annotations__", ((l.members lineage).lookup "__annotations__").getD l.annotations),
    ("__text_signature__", .null),
    ("__doc__", if l.isRecord then .text (l.summary lineage) else .null)]

/-- An attribute of the class at the head of a lineage. -/
def attribute? (lineage : List Layer) (name : String) : Option Value :=
  match lineage with
  | [] => none
  | l :: _ =>
    (((l.facts lineage).lookup name).or (held? lineage name)).or
      ((Builtin.inherited? ["object"] name).or (Builtin.classMember? name))

end Layer

end RecordSchema
