import RecordSchema.Notice
import RecordSchema.Terminal.Console

/-! # The summary of notices

One line says how many notices of each severity there are. It has the colour of the worst severity
and is left out where warnings would not be shown either.
-/
namespace RecordSchema.CommandLine

def countText (ns : List Notice) (l : Severity) : String :=
  toString (Notice.count l ns) ++ " " ++ l.name ++ "(s)"

def summaryText (ns : List Notice) : String :=
  "confql: " ++ String.intercalate ", " ((Notice.present ns).map (countText ns))

/-- What the summary puts on the error stream at a log level. -/
def summary (console : Terminal.Console) (level : Int) (ns : List Notice) : String :=
  match (Notice.present ns).getLast? with
  | none => ""
  | some worst =>
    if Log.warning < level then ""
    else if console.colour then console.put (worst.paint.apply (summaryText ns)) true
    else console.put (summaryText ns) true

end RecordSchema.CommandLine
