import RecordSchema.CommandLine.Parameter
import RecordSchema.Text.Filling

/-! # Help pages

The page of the program or of one of its commands: how it is called, what it does, and its
parameters and commands in two columns.
-/
namespace RecordSchema.CommandLine

/-- What a page or an error is about. -/
inductive Scope where
  | program
  | command (c : Command)
deriving DecidableEq, Repr

namespace Scope

def path : Scope → String
  | program => programName
  | command c => programName ++ " " ++ c.name

def usage (s : Scope) : String :=
  "Usage: " ++ s.path ++
    match s with
    | program => " [OPTIONS] [COMMAND] [ARGS]..."
    | command _ => " [OPTIONS]"

def description : Scope → String
  | program => programDescription
  | command c => c.description

def parameters : Scope → List Parameter
  | program => programParameters
  | command c => c.parameters

end Scope

/-- The width of a page. -/
def pageWidth : Nat := 80

def margin : Nat := 2

def columnGap : Nat := 2

/-- A parameter as the left column shows it. -/
def Parameter.term (p : Parameter) : String :=
  String.intercalate ", " p.names ++
    match p.placeholder? with
    | some v => " " ++ v
    | none => ""

/-- An entry of a list whose right column starts at a place. -/
def entryLines (start : Nat) (entry : String × String) : List String :=
  match Text.fill (pageWidth - start) entry.2 with
  | [] => [Text.blanks margin ++ entry.1]
  | l :: ls =>
    (Text.padded start (Text.blanks margin ++ entry.1) ++ l) :: ls.map (Text.blanks start ++ ·)

def widest (terms : List String) : Nat := (terms.map String.length).foldl max 0

/-- A list of entries in two columns under a heading. -/
def listLines (heading : String) (entries : List (String × String)) : List String :=
  let start := margin + widest (entries.map (·.1)) + columnGap
  ["", heading ++ ":"] ++ entries.flatMap (entryLines start)

def parameterEntries (s : Scope) : List (String × String) :=
  s.parameters.map fun p => (p.term, p.description)

/-- A command's description is shortened to one line. -/
def commandEntries : List (String × String) :=
  let width := pageWidth - 6 - widest (Command.all.map (·.name))
  Command.all.map fun c => (c.name, Text.shorten width c.description)

def helpLines (s : Scope) : List String :=
  [s.usage, "", Text.blanks margin ++ s.description] ++
    listLines "Options" (parameterEntries s) ++
    match s with
    | .program => listLines "Commands" commandEntries
    | .command _ => []

def helpText (s : Scope) : String := String.intercalate "\n" (helpLines s)

end RecordSchema.CommandLine
