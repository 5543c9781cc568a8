import RecordSchema.CommandLine.Reading
import RecordSchema.FileTree
import RecordSchema.Settings.Load

/-! # Tasks

What the arguments of a command ask for. The values are checked in the order in which their
parameters were first given; arguments that nothing asked for are looked at last.
-/
namespace RecordSchema.CommandLine

/-- Where the settings come from. -/
structure Sources where
  files : List Path := []
  noConfig : Bool := false
  record : Option String := none
  tagKey : Option String := none
  outputType : Option String := none
  inputType : Option String := none
deriving DecidableEq, Repr

inductive Task where
  | version (format : OutputFormat)
  | config (sources : Sources) (format : OutputFormat)
  | fields (sources : Sources) (format : OutputFormat)
  | schema (sources : Sources) (format : OutputFormat) (out : Option Path)
deriving DecidableEq, Repr

/-- The values that override all files. -/
def Sources.overrides (s : Sources) : Table :=
  let entry := fun (k : Settings.Key) (v : Option String) => (k.name, (v.map .text).getD .null)
  [entry .record s.record, entry .tagKey s.tagKey, entry .outputType s.outputType,
    entry .inputType s.inputType]

def Sources.request (s : Sources) (directory : Path) : Settings.Request :=
  { directory := directory, extra := s.files, noConfig := s.noConfig, overrides := s.overrides }

def OutputFormat.read (s : String) : Except ChoiceError OutputFormat :=
  match formatChoice.pick s with
  | .error e => .error e
  | .ok name =>
    match OutputFormat.ofName? name with
    | some f => .ok f
    | none => .error (.notListed s formatChoice.options)

/-- A settings file has to exist, to be no directory and to be open to the program. -/
def checkSettingsFile (tree : FileTree) (s : String) : Except UsageError Unit :=
  match tree.nodeOfText? s with
  | some (.file _) => .ok ()
  | some .lockedFile => .error (.badFile "--config" s .locked)
  | some .directory => .error (.badFile "--config" s .directory)
  | none => .error (.badFile "--config" s .missing)

/-- A file that is to be written need not exist. -/
def checkOutputFile (tree : FileTree) (s : String) : Except UsageError Unit :=
  match tree.nodeOfText? s with
  | some .directory => .error (.badFile "--out" s .directory)
  | some .lockedFile => .error (.badFile "--out" s .locked)
  | _ => .ok ()

def checkFormat (s : String) : Except UsageError Unit :=
  match OutputFormat.read s with
  | .ok _ => .ok ()
  | .error e => .error (.badChoice "--format" e)

def checkParameter (tree : FileTree) (r : Reading) (p : Parameter) : Except UsageError Unit :=
  match p with
  | .config => (r.values .config).forM (checkSettingsFile tree)
  | .format => ((r.value? .format).toList).forM checkFormat
  | .out => ((r.value? .out).toList).forM (checkOutputFile tree)
  | _ => .ok ()

def Reading.sources (r : Reading) : Sources :=
  { files := (r.values .config).map .ofText
    noConfig := r.has .noConfig
    record := r.value? .record
    tagKey := r.value? .tagKey
    outputType := r.value? .outputType
    inputType := r.value? .inputType }

/-- Text is the format when none is given. -/
def Reading.format (r : Reading) : OutputFormat :=
  match r.value? .format with
  | none => .text
  | some s =>
    match OutputFormat.read s with
    | .ok f => f
    | .error _ => .text

def Reading.task (r : Reading) : Command → Task
  | .version => .version r.format
  | .config => .config r.sources r.format
  | .fields => .fields r.sources r.format
  | .schema => .schema r.sources r.format ((r.value? .out).map .ofText)

/-- What the arguments of a command ask for; nothing if they ask for help. -/
def Command.read (c : Command) (tree : FileTree) (args : List String) :
    Except UsageError (Option Task) := do
  let r ← CommandLine.read c.parameters true args
  if r.has .help then return none
  r.order.forM (checkParameter tree r)
  if r.rest ≠ [] then .error (.extraArguments r.rest)
  else return some (r.task c)

end RecordSchema.CommandLine
