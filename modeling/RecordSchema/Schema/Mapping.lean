import RecordSchema.Notice
import RecordSchema.Record.Descriptor

/-! # Schema types

Every kind of field has its schema type. A whole number that the schema's 32-bit type cannot hold
becomes text instead, with a notice; that is no error, unless the number is too long to be written.
-/
namespace RecordSchema

inductive SchemaType where
  | int
  | string
  | boolean
  | duration
  | stringList
deriving DecidableEq, Repr

namespace SchemaType

def all : List SchemaType := [int, string, boolean, duration, stringList]

/-- How the type is written in a schema. -/
def name : SchemaType → String
  | int => "Int"
  | string => "String"
  | boolean => "Boolean"
  | duration => "Duration"
  | stringList => "[String!]"

/-- The type of a kind whose values it can hold. -/
def ofKind : Kind → SchemaType
  | .int => int
  | .string => string
  | .boolean => boolean
  | .duration => duration
  | .stringList => stringList

end SchemaType

/-- The range of the schema's whole numbers, which have 32 bits with a sign. -/
def leastInt : Int := -0x80000000

def greatestInt : Int := 0x7fffffff

def fitsInt (n : Int) : Bool := decide (leastInt ≤ n) && decide (n ≤ greatestInt)

structure MappedField where
  descriptor : Descriptor
  type : SchemaType
  notice : Option Notice := none
deriving Repr

/-- The whole number that the value of a field stands for. -/
def Descriptor.widen (d : Descriptor) : Except SchemaError Int :=
  match d.value.toInt? with
  | some n => .ok n
  | none => .error (.notAnInteger d.name d.value.className d.nativeType)

/-- The notice about a number that is too large, from the digits of the number. -/
def overflowNotice (d : Descriptor) (digits : String) : Notice :=
  .warning (d.name ++ " (" ++ d.nativeType ++ "): value " ++ digits ++
    " exceeds GraphQL Int32 range, using String type instead")

def overflowRecord (d : Descriptor) : String :=
  "value exceeds GraphQL Int32 range, using String type instead (name=" ++ d.name ++ ", type=" ++
    d.nativeType ++ ")"

def mapField (d : Descriptor) : Logged SchemaError MappedField :=
  match d.kind with
  | .int => do
    let n ← Logged.of d.widen
    if fitsInt n then return { descriptor := d, type := .int }
    else
      Logged.write Log.warning (overflowRecord d)
      let digits ← Logged.of (SchemaError.written (Text.whole n))
      return { descriptor := d, type := .string, notice := some (overflowNotice d digits) }
  | k => return { descriptor := d, type := .ofKind k }

/-- The fields mapped one after the other, with the notices collected so far. -/
def mapEach (notices : List Notice) :
    List Descriptor → Logged SchemaError (List MappedField × List Notice)
  | [] => return ([], notices)
  | d :: ds => do
    let m ← mapField d
    let notices ← match m.notice with
      | some n => Notice.add notices n
      | none => pure notices
    let (ms, notices) ← mapEach notices ds
    return (m :: ms, notices)

/-- The mapped fields of a record and the notices about them, in field order. -/
def Subject.mapped (s : Subject) (tagKey : String) :
    Logged SchemaError (List MappedField × List Notice) := do
  let ds ← s.descriptors tagKey
  mapEach [] ds

end RecordSchema
