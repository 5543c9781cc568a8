import RecordSchema.ErrorClass
import RecordSchema.Expression.Fault

/-! # Why a schema cannot be built

The causes that stop the walk over a record or the choice of a schema type.
-/
namespace RecordSchema

inductive SchemaError where
  | notARecord (shown : String)
  /-- A declared type cannot be read. -/
  | unresolved (className : String) (cause : Expression.Fault)
  | missingTag (field tagKey : String)
  | unsupportedType (field type : String)
  /-- The value of a whole-number field is no whole number. -/
  | notAnInteger (field className nativeType : String)
  /-- An instance lacks the attribute of a field. -/
  | noAttribute (className field : String)
  /-- The text of a subject, of a type or of a number cannot be written. -/
  | unwritten (e : WriteError)
deriving Repr

/-- Whether a type cannot be read because it names what is not there or is put together wrongly. All
other causes pass through as they are. -/
def Expression.Fault.isInDeclaration (f : Expression.Fault) : Bool :=
  match f.kind with
  | .name | .type => true
  | _ => false

def SchemaError.message : SchemaError → String
  | .notARecord shown => shown ++ " is not a dataclass record"
  | .unresolved c cause =>
    if cause.isInDeclaration then
      "cannot resolve field annotations of " ++ c ++ ": " ++ cause.message
    else cause.message
  | .missingTag field tagKey => "field " ++ field ++ " has no required " ++ tagKey ++ " tag"
  | .unsupportedType field type => "field " ++ field ++ " has unsupported type: " ++ type
  | .notAnInteger field className nativeType =>
    "field " ++ field ++ " has unsupported type: " ++ className ++ " (cannot convert " ++
      nativeType ++ " value to a 64-bit integer)"
  | .noAttribute c field => "'" ++ c ++ "' object has no attribute '" ++ field ++ "'"
  | .unwritten e => e.message

/-- A text that may be missing. -/
def SchemaError.written (s : Except WriteError String) : Except SchemaError String :=
  s.mapError .unwritten

@[simp] theorem SchemaError.written_ok (s : String) : written (.ok s) = .ok s := rfl

@[simp] theorem SchemaError.written_error (e : WriteError) :
    written (.error e) = .error (.unwritten e) := rfl

/-- Whether the cause lies in the record, as opposed to an error that passes through. -/
def SchemaError.isBuild : SchemaError → Bool
  | .unresolved _ cause => cause.isInDeclaration
  | .noAttribute .. | .unwritten _ => false
  | _ => true

/-- The class of an error; an error that passes through has a class of its own. -/
def SchemaError.class? : SchemaError → Option ErrorClass
  | .notARecord _ => some .recordType
  | .unresolved _ cause => if cause.isInDeclaration then some .recordType else none
  | .missingTag .. => some .missingTag
  | .unsupportedType .. | .notAnInteger .. => some .unsupportedType
  | .noAttribute .. | .unwritten _ => none

end RecordSchema
