import RecordSchema.Record.Declaration
import RecordSchema.TypeExpr.Names

/-! # Classes and their lineage

A class keeps the line of the classes it inherits from, itself first, in an order that respects
every class's own order of its bases, and the names that its module knows.
-/
namespace RecordSchema

/-- One class of a lineage. -/
structure Layer where
  name : ClassName
  declarations : List Declaration
  isRecord : Bool
  frozen : Bool
  /-- The field table that is visible in the class, its own or an inherited one. -/
  table : Option (Named Field)
  /-- What the class itself gives to its attributes. -/
  attributes : Named Attribute
  bases : List ClassName := []
deriving Repr

/-- The names that a module knows, and the lineages of the classes among them that are made from
declarations. -/
structure Scope where
  module : String
  names : Named TypeExpr
  lineages : List (List Layer) := []
deriving Repr

def Scope.lineage? (scope : Scope) (c : ClassName) : Option (List Layer) :=
  scope.lineages.find? fun ls => ls.head?.any fun l => l.name == c

structure RecordClass where
  own : Layer
  ancestors : List Layer
  scope : Scope
deriving Repr

namespace RecordClass

def name (c : RecordClass) : ClassName := c.own.name

/-- The class and its ancestors, nearest first. -/
def lineage (c : RecordClass) : List Layer := c.own :: c.ancestors

def table? (c : RecordClass) : Option (Named Field) := c.own.table

/-- The fields of a record, in order. -/
def fields (c : RecordClass) : List Field :=
  ((c.table?.getD []).map (·.2)).filter fun f => f.role == .field

def attribute? (lineage : List Layer) (name : String) : Option Attribute :=
  lineage.findSome? fun l => l.attributes.lookup name

end RecordClass

/-- The layer of a record class that inherits nothing, each field with a spec of its own. -/
def recordLayer (name : ClassName) (frozen : Bool) (ds : List Declaration) : Layer :=
  ⟨name, ds, true, frozen, some (ds.map fun d => (d.name, d.field)),
    ds.filterMap fun d => (d.spec.bind (·.default)).map fun v => (d.name, .value v), []⟩

end RecordSchema
