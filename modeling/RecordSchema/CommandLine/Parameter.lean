import RecordSchema.CommandLine.Choice

/-! # Commands and parameters

The commands of the program and the parameters that each of them takes. Every parameter is given by
name; some take a value.
-/
namespace RecordSchema.CommandLine

inductive Parameter where
  | quiet
  | verbose
  | noColour
  | config
  | noConfig
  | record
  | tagKey
  | outputType
  | inputType
  | format
  | out
  | help
deriving DecidableEq, Repr

namespace Parameter

def names : Parameter → List String
  | quiet => ["-q", "--quiet"]
  | verbose => ["-v", "--verbose"]
  | noColour => ["--no-color"]
  | config => ["--config"]
  | noConfig => ["--no-config"]
  | record => ["--record"]
  | tagKey => ["--tag-key"]
  | outputType => ["--output-type"]
  | inputType => ["--input-type"]
  | format => ["--format"]
  | out => ["--out"]
  | help => ["-h", "--help"]

/-- What stands for the value in a list of parameters; nothing for a parameter without a value. -/
def placeholder? : Parameter → Option String
  | config => some "FILE"
  | record => some "MODULE:NAME"
  | tagKey => some "KEY"
  | outputType => some "NAME"
  | inputType => some "NAME"
  | format => some formatChoice.metavar
  | out => some "FILE"
  | quiet | verbose | noColour | noConfig | help => none

def takesValue (p : Parameter) : Bool := p.placeholder?.isSome

def description : Parameter → String
  | quiet => "Only report errors."
  | verbose => "Increase verbosity. Specify up to three times for more detail."
  | noColour => "Disable ANSI colors in output."
  | config => "Extra settings file (repeatable, applied in order)."
  | noConfig => "Ignore confql.toml and pyproject.toml in the working directory."
  | record => "Import path of the dataclass record."
  | tagKey => "Field metadata key holding the external name."
  | outputType => "GraphQL name of the output (read) type."
  | inputType => "GraphQL name of the input (write) type."
  | format => "Output format (" ++ String.intercalate ", " formatChoice.options ++ ")."
  | out => "Write the schema to this file instead of stdout."
  | help => "Show this message and exit."

end Parameter

/-- The name of the program. -/
def programName : String := "confql"

def programDescription : String :=
  "Generate GraphQL types from a tagged dataclass configuration record."

/-- The parameters that stand before the command. -/
def programParameters : List Parameter := [.quiet, .verbose, .noColour, .help]

inductive Command where
  | config
  | fields
  | schema
  | version
deriving DecidableEq, Repr

namespace Command

def all : List Command := [config, fields, schema, version]

def name : Command → String
  | config => "config"
  | fields => "fields"
  | schema => "schema"
  | version => "version"

def ofName? (s : String) : Option Command := all.find? fun c => c.name == s

def description : Command → String
  | config => "Show the effective confql settings."
  | fields => "List the fields of the configuration record and their GraphQL types."
  | schema => "Generate the GraphQL output type and input type of the configuration record."
  | version => "Show the current version of confql."

def settingsParameters : List Parameter :=
  [.config, .noConfig, .record, .tagKey, .outputType, .inputType]

def parameters : Command → List Parameter
  | config => settingsParameters ++ [.format, .help]
  | fields => settingsParameters ++ [.format, .help]
  | schema => settingsParameters ++ [.format, .out, .help]
  | version => [.format, .help]

theorem ofName?_name (c : Command) : ofName? c.name = some c := by cases c <;> decide

end Command

end RecordSchema.CommandLine
