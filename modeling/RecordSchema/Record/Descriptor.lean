import RecordSchema.Reading.Meaning
import RecordSchema.Log.Level
import RecordSchema.Log.Record
import RecordSchema.Name.Words
import RecordSchema.Record.Instance
import RecordSchema.Schema.Error
import RecordSchema.TypeExpr.Kind

/-! # Field descriptors

The fields of a record in order, each with its tag, its kind and a value. All types of the lineage
are read before any field is looked at; the first field without a tag, a kind or an attribute, and
the first type without a text, ends the walk.
-/
namespace RecordSchema

structure Descriptor where
  name : String
  tag : String
  kind : Kind
  value : Value
  nativeType : String
deriving Repr

def Descriptor.externalName (d : Descriptor) : String := Name.lowerCamel d.tag

/-- The types that a class declares, read where it stands. -/
def readHints (s : Standpoint) (hints : Named TypeExpr) :
    List Declaration → Except Expression.Fault (Named TypeExpr)
  | [] => .ok hints
  | d :: ds => do
    let t ← TypeExpr.meaning s d.type
    readHints s (hints.put d.name t) ds

/-- The type that each name is declared with, read in its class: the declaration nearest to the
head of the lineage counts, but a text that cannot be read anywhere in the lineage is an error. -/
def lineageHints (scope : Scope) : List Layer → Except Expression.Fault (Named TypeExpr)
  | [] => .ok []
  | l :: ancestors => do
    let hints ← lineageHints scope ancestors
    readHints ⟨scope, l :: ancestors⟩ hints l.declarations

def RecordClass.hints (c : RecordClass) : Except SchemaError (Named TypeExpr) :=
  match lineageHints c.scope c.lineage with
  | .ok hints => .ok hints
  | .error e => .error (.unresolved c.name.name e)

/-- The tag of a field: a text that is not blank. -/
def Field.tag? (f : Field) (tagKey : String) : Option String :=
  match f.spec.metadata.get? tagKey with
  | some (.text s) => if Text.isBlankText s then none else some s
  | _ => none

/-- The value of a field before absence is replaced. A class may give none; an instance must have the
attribute. -/
def Subject.rawValue (s : Subject) (f : Field) : Except SchemaError (Option Value) :=
  match s with
  | .instance i =>
    match i.attribute? f.name with
    | some v => .ok (some v)
    | none => .error (.noAttribute i.cls.name.name f.name)
  | _ => .ok f.initial?

/-- The value that a field of a kind stands for. No value at all, and absence in an optional field,
count as the zero of the kind. -/
def Kind.orZero (k : Kind) (optional : Bool) : Option Value → Value
  | none => k.zero
  | some .null => if optional then k.zero else .null
  | some v => v

def Subject.fieldValue (s : Subject) (f : Field) (k : Kind) (optional : Bool) :
    Except SchemaError Value :=
  (s.rawValue f).map (k.orZero optional)

def kindOf (t : TypeExpr) : Logged SchemaError (Option Kind) :=
  match t.kind? with
  | some k => return some k
  | none => do
    let name ← Logged.of (SchemaError.written t.display)
    Logged.write Log.debug ("No field kind for annotation " ++ name)
    return none

/-- A field with a name of its own is always declared; one that is not would have no type. -/
def hintOf (hints : Named TypeExpr) (name : String) : TypeExpr :=
  (hints.lookup name).getD TypeExpr.noneObject

def describe (s : Subject) (tagKey : String) (hints : Named TypeExpr) (f : Field) :
    Logged SchemaError Descriptor :=
  match f.tag? tagKey with
  | none => .fail (.missingTag f.name tagKey)
  | some tag => do
    let t := hintOf hints f.name
    let nativeType ← Logged.of (SchemaError.written t.unwrapOptional.display)
    match ← kindOf t with
    | none => .fail (.unsupportedType f.name nativeType)
    | some k =>
      let v ← Logged.of (s.fieldValue f k t.isOptional)
      Logged.write Log.trace
        ("Field " ++ f.name ++ " -> tag=" ++ Text.quoted tag ++ " kind=" ++ k.name)
      return ⟨f.name, tag, k, v, nativeType⟩

def describeAll (s : Subject) (tagKey : String) (hints : Named TypeExpr) :
    List Field → Logged SchemaError (List Descriptor)
  | [] => return []
  | f :: fs => do
    let d ← describe s tagKey hints f
    let ds ← describeAll s tagKey hints fs
    return d :: ds

/-- What a subject that is no record is told. -/
def Subject.notARecord (s : Subject) : SchemaError :=
  match s.shown with
  | .ok shown => .notARecord shown
  | .error e => .unwritten e

def Subject.descriptors (s : Subject) (tagKey : String) : Logged SchemaError (List Descriptor) :=
  match s.record? with
  | none => .fail s.notARecord
  | some c => do
    let hints ← Logged.of c.hints
    let ds ← describeAll s tagKey hints c.fields
    Logged.write Log.debug
      ("Walked " ++ toString ds.length ++ " fields of " ++ c.name.name)
    return ds

end RecordSchema
