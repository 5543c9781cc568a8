import RecordSchema.Library.Enumeration
import RecordSchema.Reading.Attribute
import RecordSchema.Record.Bundled
import RecordSchema.Record.Instance

/-! # Objects

What a name in a module stands for. The attributes of an object are looked up one after the other
along a path of names.
-/
namespace RecordSchema.Library

inductive Object where
  | value (v : Value)
  /-- A type that is neither a class nor a value. -/
  | typeExpr (t : TypeExpr)
  | cls (c : RecordClass)
  | «instance» (i : Instance)
  /-- A class that has members and no fields, with the classes it inherits from, nearest first. -/
  | group (name : ClassName) (ancestors : List ClassName) (shown : String)
      (members : List (String × Object))
  | enumeration (e : Enumeration)
  | label (e : Enumeration) (l : Label)
  /-- Anything else, by its class and the text that shows it. -/
  | thing (className shown : String) (members : List (String × Object))
deriving Repr

namespace Object

def ofType : TypeExpr → Object
  | .synonym s c t => typeExpr (.synonym s c t)
  | t => value t.toValue

/-- The class that every class inherits from. -/
def root : ClassName := ⟨"builtins", "object"⟩

def ofClass (c : ClassName) (members : List (String × Object)) : Object :=
  group c [root] c.shown members

/-- A function that belongs to an instance. -/
def attachedTo (v : Value) : Value :=
  match v with
  | .thing "function" s => .thing "method" s
  | v => v

def instanceAttribute? (i : Instance) (name : String) : Option Value :=
  if name = "__dict__" then some (.table i.values)
  else if name = "__weakref__" then some .null
  else (i.values.lookup name).or
    (((Layer.held? i.cls.lineage name).map attachedTo).or (Builtin.member? ["object"] name))

/-- An attribute that a class without fields has besides its members. -/
def groupAttribute? (c : ClassName) (ancestors : List ClassName) (name : String) : Option Value :=
  let facts := Builtin.classFact? c ancestors.head? name
  let order : Option Value :=
    if name = "__mro__" then some (.tuple ((c :: ancestors).map .cls))
    else if name = "__annotations__" then some (.table [])
    else if name = "__weakref__" then some (Builtin.unattached c.name name .computed)
    else if name = "__text_signature__" then some .null else none
  let lineage := (ancestors.filter fun a => a.module = root.module).map (·.name)
  (facts.or order).or ((Builtin.inherited? lineage name).or (Builtin.classMember? name))

def classValue (className : String) : Object := value (.cls ⟨"builtins", className⟩)

def attribute? (name : String) : Object → Option Object
  | value v => (Builtin.attribute? v name).map value
  | typeExpr t => (t.attribute? ⟨"", [], []⟩ name).map ofType
  | cls c => (Layer.attribute? c.lineage name).map value
  | «instance» i =>
    if name = "__class__" then some (cls i.cls) else (instanceAttribute? i name).map value
  | group c ancestors _ members =>
    (members.lookup name).or ((groupAttribute? c ancestors name).map value)
  | enumeration e => ((e.label? name).map (label e)).or ((e.attribute? name).map value)
  | label e l =>
    if name = "__class__" then some (enumeration e)
    else ((e.label? name).map (label e)).or ((e.labelAttribute? l name).map value)
  | thing c shown members =>
    if name = "__class__" then some (classValue c)
    else (members.lookup name).or ((Builtin.attribute? (.thing c shown) name).map value)

/-- What a path of names leads to. -/
def follow? (o : Object) : List String → Option Object
  | [] => some o
  | name :: names => (o.attribute? name).bind fun a => follow? a names

/-- The object as something that can be asked for its fields. -/
def subject : Object → Subject
  | value v => .plain v.shown
  | typeExpr t => .plain t.inner
  | cls c => .cls c
  | «instance» i => .instance i
  | group _ _ shown _ => .plain (.ok shown)
  | enumeration e => .plain (.ok e.shown)
  | label e l => .plain (.ok (e.shownLabel l))
  | thing _ shown _ => .plain (.ok shown)

theorem follow?_append (o : Object) (xs ys : List String) :
    o.follow? (xs ++ ys) = (o.follow? xs).bind fun a => a.follow? ys := by
  induction xs generalizing o with
  | nil => rfl
  | cons x xs ih =>
    simp only [List.cons_append, follow?]
    cases o.attribute? x with
    | none => rfl
    | some a => simpa using ih a

end Object

end RecordSchema.Library
