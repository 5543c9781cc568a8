import RecordSchema.Notice
import RecordSchema.Path
import RecordSchema.Settings.Error
import RecordSchema.Settings.Key
import RecordSchema.Text.Blank
import RecordSchema.Value

/-! # Settings tables

Every entry of a settings table is accounted for: an unknown key and a known key without a usable
text are each worth one warning, which is logged and noted. The second kind of warning shows the
value, which must have a text for that.
-/
namespace RecordSchema.Settings

variable {ε : Type}

/-- Log a warning and note it. -/
def warn (ns : List Notice) (message : String) : Logged ε (List Notice) := do
  Logged.write Log.warning message
  Notice.add ns (.warning message)

def unknownMessage (source key : String) : String :=
  source ++ ": unknown settings key " ++ Text.quoted key

def warnUnknown (source : String) (ns : List Notice) : Table → Logged ε (List Notice)
  | [] => return ns
  | (k, _) :: rest => do
    if Key.isKnown k then warnUnknown source ns rest
    else warnUnknown source (← warn ns (unknownMessage source k)) rest

def ignoredMessage (source key shown : String) : String :=
  source ++ ": ignoring " ++ Text.quoted key ++ ", expected a non-empty string (got " ++ shown ++ ")"

/-- The text of a value without blanks around it, if something is left. -/
def usableText? : Value → Option String
  | .text s => if Text.strip s = "" then none else some (Text.strip s)
  | _ => none

/-- The text that a table holds under a key. -/
def textAt (t : Table) (key source : String) (ns : List Notice) :
    Logged Error (Option String × List Notice) :=
  match t.get? key with
  | none => return (none, ns)
  | some v =>
    match usableText? v with
    | some s => return (some s, ns)
    | none => do
      let shown ← Logged.of (v.shown.mapError .unwritten)
      let ns ← warn ns (ignoredMessage source key shown)
      return (none, ns)

/-- The file in which settings are only one table among others. -/
def sharedFileName : String := "pyproject.toml"

def ownFileName : String := "confql.toml"

/-- The table under a key, if there is one. -/
def subtable? (t : Table) (key : String) : Option Table :=
  match t.get? key with
  | some (.table es) => some es
  | _ => none

/-- The settings table of a file with the given entries. -/
def tableOf? (t : Table) (file : Path) : Option Table :=
  if file.name = sharedFileName then (subtable? t "tool").bind fun tool => subtable? tool "confql"
  else some t

end RecordSchema.Settings
