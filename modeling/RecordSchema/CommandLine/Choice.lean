import RecordSchema.Notice
import RecordSchema.Schema.Mapping
import RecordSchema.Text.Case

/-! # Choices

An option that takes one of a few names accepts them in any case and yields the name as it is
listed.
-/
namespace RecordSchema.CommandLine

structure Choice where
  name : String
  options : List String
deriving DecidableEq, Repr

inductive ChoiceError where
  | notListed (given : String) (options : List String)
deriving DecidableEq, Repr

def ChoiceError.message : ChoiceError → String
  | .notListed given options =>
    "Invalid value '" ++ given ++ "'. Must be one of: " ++ String.intercalate ", " options

def Choice.pick (c : Choice) (given : String) : Except ChoiceError String :=
  match c.options.find? fun o => Text.lower o == Text.lower given with
  | some o => .ok o
  | none => .error (.notListed given c.options)

/-- How the choice is named in a list of options. -/
def Choice.metavar (c : Choice) : String := "[" ++ String.intercalate "|" c.options ++ "]"

inductive OutputFormat where
  | text
  | json
deriving DecidableEq, Repr

namespace OutputFormat

def all : List OutputFormat := [text, json]

def name : OutputFormat → String
  | text => "text"
  | json => "json"

def ofName? (s : String) : Option OutputFormat := all.find? fun f => f.name == s

end OutputFormat

def formatChoice : Choice := ⟨"outputformat", OutputFormat.all.map (·.name)⟩

def levelChoice : Choice := ⟨"diagnosticlevel", Severity.all.map (·.name)⟩

def typeChoice : Choice := ⟨"graphqltype", SchemaType.all.map (·.name)⟩

end RecordSchema.CommandLine
