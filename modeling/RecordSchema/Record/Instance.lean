import RecordSchema.Record.Attribute
import RecordSchema.Text.Cut

/-! # Instances

A new instance gives a value to every field that its initializer knows: the one it is made with, or
else the field's default, or else what the field's factory yields. An instance may lack the
attribute of a field, either because the initializer does not know it or because it was taken away.
`Subject` is whatever can be asked for its fields, including what has none.
-/
namespace RecordSchema

structure Instance where
  cls : RecordClass
  values : Named Value
deriving Repr

inductive InstanceError where
  | noArguments (className : String)
  | unexpected (className name : String)
  | missing (className : String) (names : List String)
deriving DecidableEq, Repr

def InstanceError.message : InstanceError → String
  | .noArguments c => c ++ "() takes no arguments"
  | .unexpected c n => c ++ ".__init__() got an unexpected keyword argument '" ++ n ++ "'"
  | .missing c names =>
    c ++ ".__init__() missing " ++ toString names.length ++ " required keyword-only argument" ++
      (if names.length = 1 then "" else "s") ++ ": " ++
      Text.listing (names.map fun n => "'" ++ n ++ "'")

/-- The value that a field has without being given one. -/
def Field.initial? (f : Field) : Option Value := f.spec.default <|> f.spec.factory

/-- The value that a new instance keeps for a field. If the initializer does not know the field, only
a factory makes one. -/
def Field.kept? (f : Field) (given : Named Value) : Option Value :=
  if f.spec.init then given.lookup f.name <|> f.initial? else f.spec.factory

namespace RecordClass

/-- The name of the class whose initializer makes the instances. -/
def initializer (c : RecordClass) : String :=
  ((c.lineage.find? (·.isRecord)).getD c.own).name.name

/-- The entries of the field table that an instance can be given values for. -/
def parameters (c : RecordClass) : List Field :=
  ((c.table?.getD []).map (·.2)).filter Field.isParameter

def make (c : RecordClass) (given : Named Value) : Except InstanceError Instance :=
  if c.table?.isNone then
    if given.isEmpty then .ok ⟨c, []⟩ else .error (.noArguments c.name.name)
  else
    match given.find? fun g => c.parameters.all fun f => f.name != g.1 with
    | some g => .error (.unexpected c.initializer g.1)
    | none =>
      let missing := c.parameters.filter fun f =>
        (given.lookup f.name).isNone && f.initial?.isNone
      if missing.isEmpty then
        .ok ⟨c, c.fields.filterMap fun f => (f.kept? given).map fun v => (f.name, v)⟩
      else .error (.missing c.initializer (missing.map (·.name)))

end RecordClass

/-- An attribute of an instance: its own value, else the one that its class gives. -/
def Instance.attribute? (i : Instance) (name : String) : Option Value :=
  i.values.lookup name <|> (RecordClass.attribute? i.cls.lineage name).map Attribute.toValue

/-- The instance once attributes of it are set. -/
def Instance.assign (i : Instance) (attributes : Named Value) : Instance :=
  { i with values := i.values.putAll attributes }

inductive Subject where
  | cls (c : RecordClass)
  | «instance» (i : Instance)
  /-- Anything else, by the text that shows it, if there is one. -/
  | plain (shown : Except WriteError String)
deriving Repr

namespace Subject

def shown : Subject → Except WriteError String
  | cls c => .ok c.name.shown
  | «instance» i => .ok ("<" ++ i.cls.name.full ++ " object>")
  | plain s => s

def class? : Subject → Option RecordClass
  | cls c => some c
  | «instance» i => some i.cls
  | plain _ => none

/-- The record class of a subject, if it is a record. -/
def record? (s : Subject) : Option RecordClass := s.class?.filter fun c => c.table?.isSome

end Subject

end RecordSchema
