import RecordSchema.CommandLine.Failure
import RecordSchema.CommandLine.Task
import RecordSchema.FieldTable
import RecordSchema.Library.Bundled
import RecordSchema.Schema.Build
import RecordSchema.Terminal.Console

/-! # Carrying out a task

A task goes through stages: the settings are loaded, the record is looked up, its fields are mapped,
and the result is delivered. The first stage that fails ends the task, and nothing is delivered.
-/
namespace RecordSchema.CommandLine

/-- Where a call takes place. -/
structure Surroundings where
  tree : FileTree
  /-- The directory whose settings files are looked for. -/
  directory : Path
  library : Library
  /-- The log level that the environment asks for, as it is written there. -/
  levelSetting : Option String := none
deriving Repr

/-- What a task delivers. -/
structure Delivery where
  /-- What goes to the output, one text for each time something is written there. -/
  output : List String := []
  /-- The notices that a summary is owed for. -/
  owed : List Notice := []
  tree : FileTree
deriving Repr

def loadSettings (w : Surroundings) (s : Sources) : Logged Failure Settings :=
  (Settings.load w.tree (s.request w.directory)).mapError .settings

def loadRecord (w : Surroundings) (settings : Settings) : Logged Failure Subject := do
  let o ← (w.library.resolve settings.record).mapError .record
  return o.subject

/-- A record that no schema can be built for is also mentioned in the log. -/
def built {α : Type} (x : Logged SchemaError α) : Logged Failure α :=
  match x.result with
  | .ok a => ⟨x.log, .ok a⟩
  | .error e =>
    let mention : List Log.Record :=
      if e.isBuild then [⟨Log.debug, "Schema build failed: " ++ e.message⟩] else []
    ⟨x.log ++ mention, .error (.schema e)⟩

def noticeJson (n : Notice) : JsonValue :=
  .object [("level", .text n.level.name), ("message", .text n.message)]

def noticesJson (ns : List Notice) : JsonValue := .array (ns.map noticeJson)

def countsJson (ns : List Notice) : JsonValue :=
  .object (Severity.all.map fun l => (l.name, .number (Notice.count l ns)))

def settingsJson (s : Settings) : JsonValue :=
  .object [("settings", .object (Settings.Key.all.map fun k => (k.name, .text (s.get k)))),
    ("config_files", .array (s.sources.map .text)), ("diagnostics", noticesJson s.notices),
    ("counts", countsJson s.notices)]

def schemaJson (s : Settings) (schema : Schema) : JsonValue :=
  let notices := s.notices ++ schema.notices
  .object [("record", .text s.record), ("output_type", .text s.outputType),
    ("input_type", .text s.inputType), ("schema", .text schema.text),
    ("diagnostics", noticesJson notices), ("counts", countsJson notices)]

def versionJson : JsonValue := .object [("version", .text Library.programVersion)]

def asLine (s : String) : String := s ++ "\n"

def schemaText (s : Settings) (schema : Schema) : OutputFormat → String
  | .text => schema.text
  | .json => asLine (schemaJson s schema).indented

/-- Text comes with a summary, JSON holds the notices itself. -/
def owedFor (format : OutputFormat) (ns : List Notice) : List Notice :=
  match format with
  | .text => ns
  | .json => []

def showVersion (w : Surroundings) (c : Terminal.Console) : OutputFormat → Logged Failure Delivery
  | .text => return { output := [asLine (c.embolden Library.programVersion)], tree := w.tree }
  | .json => return { output := [asLine versionJson.onOneLine], tree := w.tree }

def showConfig (w : Surroundings) (s : Sources) (format : OutputFormat) :
    Logged Failure Delivery := do
  let settings ← loadSettings w s
  return {
    output := match format with
      | .text => [settings.toToml]
      | .json => [asLine (settingsJson settings).indented]
    owed := owedFor format settings.notices
    tree := w.tree }

def showFields (w : Surroundings) (s : Sources) (format : OutputFormat) :
    Logged Failure Delivery := do
  let settings ← loadSettings w s
  let record ← loadRecord w settings
  let (ms, _) ← built (record.mapped settings.tagKey)
  let rows := ms.map MappedField.row
  return {
    output := match format with
      | .text => (FieldTable.lines rows).map asLine
      | .json => [asLine (FieldTable.json rows).indented]
    tree := w.tree }

/-- A text goes to the output, or into a file if one is named. -/
def deliver (w : Surroundings) (settings : Settings) (text : String) (owed : List Notice) :
    Option Path → Logged Failure Delivery
  | none => return { output := [text], owed := owed, tree := w.tree }
  | some p => do
    let tree ← Logged.of ((w.tree.write p text).mapError (.writing p.text))
    Logged.write Log.info ("Wrote schema for " ++ settings.record ++ " to " ++ p.text)
    return { owed := owed, tree := tree }

def showSchema (w : Surroundings) (s : Sources) (format : OutputFormat) (out : Option Path) :
    Logged Failure Delivery := do
  let settings ← loadSettings w s
  let record ← loadRecord w settings
  let schema ← built (record.schema settings.tagKey settings.views)
  deliver w settings (schemaText settings schema format)
    (owedFor format (settings.notices ++ schema.notices)) out

def Task.carryOut (w : Surroundings) (c : Terminal.Console) : Task → Logged Failure Delivery
  | .version format => showVersion w c format
  | .config s format => showConfig w s format
  | .fields s format => showFields w s format
  | .schema s format out => showSchema w s format out

end RecordSchema.CommandLine
