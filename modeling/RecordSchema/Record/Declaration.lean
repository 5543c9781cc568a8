import RecordSchema.Named
import RecordSchema.TypeExpr.Basic

/-! # Declarations

What a class says about one of its attributes: its type, which also tells whether it is a field at
all, and, unless it is annotated only, the metadata and the ways to get its value when none is
given.
-/
namespace RecordSchema

inductive Role where
  | field
  | classVariable
  | initVariable
deriving DecidableEq, Repr

def TypeExpr.role : TypeExpr → Role
  | classVariable _ => .classVariable
  | initVariable _ => .initVariable
  | _ => .field

structure FieldSpec where
  metadata : Table := []
  default : Option Value := none
  factory : Option Value := none
  /-- Whether the initializer takes a value for the field. -/
  init : Bool := true
deriving Repr

structure Declaration where
  name : String
  type : TypeExpr
  /-- Absent in an attribute that is annotated and nothing else. -/
  spec : Option FieldSpec := none
deriving Repr

/-- A field as the record class keeps it. -/
structure Field where
  name : String
  role : Role
  spec : FieldSpec
deriving Repr

/-- Whether the initializer has a parameter for a field. -/
def Field.isParameter (f : Field) : Bool := f.role != .classVariable && f.spec.init

/-- The field that a declaration makes by itself. -/
def Declaration.field (d : Declaration) : Field := ⟨d.name, d.type.role, d.spec.getD {}⟩

/-- What a class gives to one of its attributes: a value, or a spec that no record class has taken
up yet. -/
inductive Attribute where
  | value (v : Value)
  | spec (s : FieldSpec)
deriving Repr

end RecordSchema
