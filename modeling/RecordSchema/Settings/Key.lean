/-! # Settings keys

The four values that a settings table can hold, by the names they have in a settings file.
-/
namespace RecordSchema.Settings

inductive Key where
  | record
  | tagKey
  | outputType
  | inputType
deriving DecidableEq, Repr

namespace Key

/-- All keys, in the order in which they are listed. -/
def all : List Key := [record, tagKey, outputType, inputType]

def name : Key → String
  | record => "record"
  | tagKey => "tag_key"
  | outputType => "output_type"
  | inputType => "input_type"

def ofName? (s : String) : Option Key := all.find? fun k => k.name == s

def isKnown (s : String) : Bool := (ofName? s).isSome

theorem ofName?_name (k : Key) : ofName? k.name = some k := by
  cases k <;> decide

theorem mem_all (k : Key) : k ∈ all := by cases k <;> simp [all]

end Key

end RecordSchema.Settings
