import RecordSchema.Schema.Block
import RecordSchema.Schema.Mapping

/-! # Schemas

A view is a block head and the mark behind every field type. A schema lists the same fields once
for each view, with an empty line between the blocks, and carries the notices of the mapping.
-/
namespace RecordSchema

structure View where
  head : String
  mark : String
deriving DecidableEq, Repr

namespace View

/-- The view of what is read: every field is present. -/
def output (typeName : String) : View := ⟨"type " ++ typeName, "!"⟩

/-- The view of what is written: every field may be left out. -/
def input (typeName : String) : View := ⟨"input " ++ typeName, ""⟩

def defaultOutputName : String := "Global"

def defaultInputName : String := "globalInput"

def defaultOutput : View := output defaultOutputName

def defaultInput : View := input defaultInputName

end View

/-- The line of a field in a view. -/
def MappedField.line (m : MappedField) (v : View) : String :=
  Block.fieldText m.descriptor.externalName m.type.name v.mark

def blockOf (ms : List MappedField) (v : View) : Block :=
  { head := v.head, lines := ms.map fun m => ⟨1, m.line v⟩ }

structure Schema where
  text : String
  notices : List Notice := []
deriving DecidableEq, Repr

/-- Whether some field took text in place of a whole number. -/
def Schema.hasFallbacks (s : Schema) : Bool := !s.notices.isEmpty

def blockSeparator : String := "\n"

def schemaText (ms : List MappedField) (views : List View) : String :=
  String.intercalate blockSeparator (views.map fun v => (blockOf ms v).text)

def Subject.schema (s : Subject) (tagKey : String) (views : List View) :
    Logged SchemaError Schema := do
  let (ms, notices) ← s.mapped tagKey
  Logged.write Log.debug
    ("Built " ++ toString views.length ++ " block(s) with " ++ toString ms.length ++
      " field(s) and " ++ toString notices.length ++ " fallback(s)")
  return { text := schemaText ms views, notices := notices }

/-- The schema of a single view; building it is not logged. -/
def Subject.viewSchema (s : Subject) (tagKey : String) (v : View) : Logged SchemaError Schema := do
  let (ms, notices) ← s.mapped tagKey
  return { text := (blockOf ms v).text, notices := notices }

end RecordSchema
