import RecordSchema.Settings.Draft
import RecordSchema.Toml.Document

/-! # Loading settings

The layers of the settings, lowest first: the defaults, the shared and the own settings file of a
directory, the files given explicitly, and the overrides.
-/
namespace RecordSchema.Settings

/-- The entries of a settings file. -/
def readFile (tree : FileTree) (p : Path) : Logged Error Table :=
  match tree.read p with
  | .error e => do
    Logged.write Log.error ("Error loading TOML from " ++ p.text ++ ": " ++ fileMessage p.text e)
    .fail (.unreadable p.text e)
  | .ok content =>
    match content.decode with
    | .error f => .fail (.undecodable f)
    | .ok s =>
      match Toml.parse (String.ofList (Text.unifyNewlines s.toList)) with
      | .ok t => return t
      | .error (.keyPresent k) => .fail (.keyPresent k)
      | .error .redefined => .fail .redefined
      | .error _ => do
        Logged.write Log.error ("Error decoding TOML from " ++ p.text ++ ": " ++ parserMark)
        .fail (.malformed p.text)

/-- The draft of a settings file; none where the file has no settings table. -/
def Draft.ofFile (tree : FileTree) (p : Path) : Logged Error (Option Draft) := do
  let entries ← readFile tree p
  match tableOf? entries p with
  | none =>
    Logged.write Log.debug ("No [tool.confql] table in " ++ p.text)
    return none
  | some t =>
    Logged.write Log.debug ("Loaded settings from " ++ p.text)
    return some (← Draft.ofTable t p.text)

structure Request where
  /-- The directory whose settings files are looked for. -/
  directory : Path
  extra : List Path := []
  noConfig : Bool := false
  overrides : Table := []
deriving Repr

/-- Those of some paths that lead to files. -/
def existing (tree : FileTree) : List Path → Except Error (List Path)
  | [] => .ok []
  | p :: ps =>
    match tree.isFile p with
    | .ok true => (p :: ·) <$> existing tree ps
    | .ok false => existing tree ps
    | .error e => .error (.unsearchable p.text e)

/-- The files that are read, in order. -/
def Request.files (r : Request) (tree : FileTree) : Except Error (List Path) :=
  if r.noConfig then .ok r.extra
  else
    (· ++ r.extra) <$>
      existing tree [r.directory.child sharedFileName, r.directory.child ownFileName]

def mergeFiles (tree : FileTree) (d : Draft) : List Path → Logged Error Draft
  | [] => return d
  | p :: ps => do
    match ← Draft.ofFile tree p with
    | none => mergeFiles tree d ps
    | some layer => mergeFiles tree (← d.merge layer) ps

def finish (d : Draft) (overrides : Table) : Except Error Settings :=
  match d.override overrides with
  | (_, some e) => .error e
  | (d, none) => d.freeze

def load (tree : FileTree) (r : Request) : Logged Error Settings := do
  let defaults ← Draft.defaults
  let files ← Logged.of (r.files tree)
  let d ← mergeFiles tree defaults files
  Logged.of (finish d r.overrides)

end RecordSchema.Settings
