import RecordSchema.JsonValue
import RecordSchema.Schema.Mapping
import RecordSchema.Text.Blank
import RecordSchema.Text.Filling

/-! # The field table

One row for every field of a record, in order. As text, the columns are as wide as their widest
cell or heading and two blanks apart, and a remark follows the fields that take text in place of a
whole number.
-/
namespace RecordSchema

structure FieldRow where
  name : String
  tag : String
  externalName : String
  kind : String
  nativeType : String
  type : String
  fallback : Bool
deriving DecidableEq, Repr

def MappedField.row (m : MappedField) : FieldRow :=
  ⟨m.descriptor.name, m.descriptor.tag, m.descriptor.externalName, m.descriptor.kind.name,
    m.descriptor.nativeType, m.type.name, m.notice.isSome⟩

namespace FieldTable

inductive Column where
  | name
  | tag
  | externalName
  | kind
  | type
deriving DecidableEq, Repr

namespace Column

def all : List Column := [name, tag, externalName, kind, type]

def heading : Column → String
  | name => "NAME"
  | tag => "TAG"
  | externalName => "GRAPHQL_NAME"
  | kind => "KIND"
  | type => "GRAPHQL_TYPE"

def cell (r : FieldRow) : Column → String
  | name => r.name
  | tag => r.tag
  | externalName => r.externalName
  | kind => r.kind
  | type => r.type

theorem mem_all (c : Column) : c ∈ all := by cases c <;> simp [all]

/-- The width of the widest cell or heading. -/
def width (rows : List FieldRow) (c : Column) : Nat :=
  (rows.map fun r => (c.cell r).length).foldl max c.heading.length

end Column

def gap : List Char := [' ', ' ']

/-- A line of cells, without the blanks at its end. -/
def lineOf (rows : List FieldRow) (cell : Column → String) : String :=
  String.ofList (Text.stripEnd
    (gap.intercalate (Column.all.map fun c => Text.padEnd (c.width rows) (cell c).toList)))

def remark : String := "  (Int overflow)"

def rowLine (rows : List FieldRow) (r : FieldRow) : String :=
  lineOf rows (Column.cell r) ++ if r.fallback then remark else ""

/-- The heading and a line for every row. -/
def lines (rows : List FieldRow) : List String :=
  lineOf rows Column.heading :: rows.map (rowLine rows)

def rowJson (r : FieldRow) : JsonValue :=
  .object [("name", .text r.name), ("tag", .text r.tag), ("graphql_name", .text r.externalName),
    ("kind", .text r.kind), ("native_type", .text r.nativeType), ("graphql_type", .text r.type),
    ("fallback", .bool r.fallback)]

def json (rows : List FieldRow) : JsonValue := .array (rows.map rowJson)

end FieldTable

end RecordSchema
