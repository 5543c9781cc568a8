import RecordSchema.Record.Bundled
import RecordSchema.Schema.Build
import RecordSchema.Settings.Error
import RecordSchema.Settings.Table
import RecordSchema.Toml.Writer

/-! # Drafts and snapshots of settings

A draft may leave values open; later drafts override earlier ones where they set a value. Freezing
a draft in which all values are set gives a snapshot, which can be thawed into a draft again.
-/
namespace RecordSchema

namespace Settings

structure Draft where
  record : Option String := none
  tagKey : Option String := none
  outputType : Option String := none
  inputType : Option String := none
  sources : List String := []
  notices : List Notice := []
deriving Repr

end Settings

/-- Settings in which every value is set. -/
structure Settings where
  record : String
  tagKey : String
  outputType : String
  inputType : String
  sources : List String
  notices : List Notice
deriving DecidableEq, Repr

namespace Settings

namespace Draft

def get (d : Draft) : Key → Option String
  | .record => d.record
  | .tagKey => d.tagKey
  | .outputType => d.outputType
  | .inputType => d.inputType

def set (d : Draft) (k : Key) (v : Option String) : Draft :=
  match k with
  | .record => { d with record := v }
  | .tagKey => { d with tagKey := v }
  | .outputType => { d with outputType := v }
  | .inputType => { d with inputType := v }

/-- Read the texts under the given keys into a draft. -/
def readKeys (t : Table) (source : String) (d : Draft) : List Key → Logged Error Draft
  | [] => return d
  | k :: ks => do
    let (s, ns) ← textAt t k.name source d.notices
    readKeys t source { d.set k s with notices := ns } ks

/-- The draft of a settings table. -/
def ofTable (t : Table) (source : String) : Logged Error Draft := do
  let ns ← warnUnknown source [] t
  readKeys t source { sources := [source], notices := ns } Key.all

/-- The draft in which what the second one sets counts, and all else comes from the first. -/
def merge {ε : Type} (a b : Draft) : Logged ε Draft := do
  let ns ← Notice.addAll a.notices b.notices
  return {
    record := b.record <|> a.record
    tagKey := b.tagKey <|> a.tagKey
    outputType := b.outputType <|> a.outputType
    inputType := b.inputType <|> a.inputType
    sources := a.sources ++ b.sources
    notices := ns }

/-- Set values by the names of their keys, in order, each as its text; absent ones are passed over. An
unknown name or a value without a text ends this, and what was set before it stays set. -/
def override (d : Draft) : Table → Draft × Option Error
  | [] => (d, none)
  | (_, .null) :: rest => override d rest
  | (k, v) :: rest =>
    match Key.ofName? k with
    | some key =>
      match v.toText with
      | .ok s => override (d.set key (some s)) rest
      | .error e => (d, some (.unwritten e))
    | none => (d, some (.unknownOverride k))

def missingKeys (d : Draft) : List Key := Key.all.filter fun k => (d.get k).isNone

def freeze (d : Draft) : Except Error Settings :=
  match d.record, d.tagKey, d.outputType, d.inputType with
  | some r, some t, some o, some i => .ok ⟨r, t, o, i, d.sources, d.notices⟩
  | _, _, _, _ => .error (.missing (d.missingKeys.map (·.name)))

end Draft

def thaw (s : Settings) : Draft :=
  ⟨some s.record, some s.tagKey, some s.outputType, some s.inputType, s.sources, s.notices⟩

def get (s : Settings) : Key → String
  | .record => s.record
  | .tagKey => s.tagKey
  | .outputType => s.outputType
  | .inputType => s.inputType

def toTable (s : Settings) : Table := Key.all.map fun k => (k.name, .text (s.get k))

def views (s : Settings) : List View := [.output s.outputType, .input s.inputType]

def toToml (s : Settings) : String := Toml.render s.toTable

def defaultRecordPath : String :=
  TypeExpr.bundledClass.module ++ ":" ++ TypeExpr.bundledClass.name

/-- The values that hold when no file says otherwise. -/
def defaultTable : Table :=
  [(Key.record.name, .text defaultRecordPath), (Key.tagKey.name, .text defaultTagKey),
    (Key.outputType.name, .text View.defaultOutputName),
    (Key.inputType.name, .text View.defaultInputName)]

def defaultSource : String := "<defaults>"

def defaultFile : String := "<config>/confql-default.toml"

def Draft.defaults : Logged Error Draft := do
  Logged.write Log.debug ("Loaded default settings from " ++ defaultFile)
  Draft.ofTable defaultTable defaultSource

end Settings

end RecordSchema
