import RecordSchema.CommandLine.Help
import RecordSchema.Terminal.Plain
import RecordSchema.Text.Quoted
import RecordSchema.Text.Similarity

/-! # Misuse

What is wrong with the arguments of a call. Most of these errors come with a reminder of how the
program or the command is called.
-/
namespace RecordSchema.CommandLine

inductive FileFault where
  | missing
  | directory
  | locked
deriving DecidableEq, Repr

inductive UsageError where
  | noSuchOption (name : String) (similar : List String)
  | noSuchCommand (name : String) (similar : List String)
  | needsArgument (option : String)
  | takesNoValue (option : String)
  | extraArguments (args : List String)
  | badChoice (option : String) (cause : ChoiceError)
  | badFile (option path : String) (cause : FileFault)
deriving DecidableEq, Repr

/-- A hint at what may have been meant. -/
def suggestion : List String → String
  | [] => ""
  | [s] => " Did you mean " ++ Text.quoted s ++ "?"
  | names =>
    " (Did you mean one of: " ++
      String.intercalate ", " ((names.mergeSort fun a b => decide (a ≤ b)).map Text.quoted) ++ "?)"

def FileFault.message (path : String) : FileFault → String
  | missing => "File " ++ Text.quoted path ++ " does not exist."
  | directory => "File " ++ Text.quoted path ++ " is a directory."
  | locked => "File " ++ Text.quoted path ++ " is not readable."

namespace UsageError

def message : UsageError → String
  | noSuchOption name similar => "No such option " ++ Text.quoted name ++ "." ++ suggestion similar
  | noSuchCommand name similar =>
    "No such command " ++ Text.quoted name ++ "." ++ suggestion similar
  | needsArgument option => "Option " ++ Text.quoted option ++ " requires an argument."
  | takesNoValue option => "Option " ++ Text.quoted option ++ " does not take a value."
  | extraArguments args =>
    "Got unexpected extra argument" ++ (if args.length = 1 then "" else "s") ++ " (" ++
      String.intercalate " " args ++ ")"
  | badChoice option cause =>
    "Invalid value for " ++ Text.quoted option ++ ": " ++ cause.message
  | badFile option path cause =>
    "Invalid value for " ++ Text.quoted option ++ ": " ++ cause.message path

/-- Whether the error comes with the reminder. -/
def hasReminder : UsageError → Bool
  | needsArgument _ | takesNoValue _ => false
  | _ => true

def reminder (s : Scope) : String :=
  s.usage ++ "\nTry '" ++ s.path ++ " --help' for help.\n\n"

/-- What the error puts on the error stream. -/
def report (e : UsageError) (s : Scope) : String :=
  (if e.hasReminder then reminder s else "") ++
    Terminal.plain ("Error: " ++ e.message ++ "\n")

end UsageError

end RecordSchema.CommandLine
