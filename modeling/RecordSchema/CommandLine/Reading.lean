import RecordSchema.CommandLine.Usage
import RecordSchema.Text.Cut

/-! # Reading arguments

The arguments of a call are read from the left. One that begins with a dash names parameters: a
long name may bring its value behind an equals sign, and short names may stand together behind one
dash. Two dashes end the parameters.
-/
namespace RecordSchema.CommandLine

/-- The parameters given, in order, each with its value if it takes one, and all other arguments. -/
structure Reading where
  given : List (Parameter × Option String) := []
  rest : List String := []
deriving DecidableEq, Repr

namespace Reading

def has (r : Reading) (p : Parameter) : Bool := r.given.any fun g => g.1 == p

def count (r : Reading) (p : Parameter) : Nat := r.given.countP fun g => g.1 == p

/-- All values given for a parameter, in order. -/
def values (r : Reading) (p : Parameter) : List String :=
  r.given.filterMap fun g => if g.1 = p then g.2 else none

/-- The value that counts is the last one. -/
def value? (r : Reading) (p : Parameter) : Option String := (r.values p).getLast?

/-- The parameters that occur, in the order in which they were first given. -/
def order (r : Reading) : List Parameter := (r.given.map (·.1)).eraseDups

def addGiven (more : List (Parameter × Option String)) (r : Reading) : Reading :=
  { r with given := more ++ r.given }

def addRest (arg : String) (r : Reading) : Reading := { r with rest := arg :: r.rest }

end Reading

def named? (ps : List Parameter) (name : String) : Option Parameter :=
  ps.find? fun p => p.names.contains name

def isLongName (name : String) : Bool := ['-', '-'].isPrefixOf name.toList

def longNames (ps : List Parameter) : List String := (ps.flatMap Parameter.names).filter isLongName

/-- What one argument says. -/
inductive Mention where
  | given (ps : List (Parameter × Option String))
  /-- The value is the next argument. -/
  | awaits (p : Parameter) (name : String)
deriving DecidableEq, Repr

/-- The part before an equals sign, and the part behind it if there is one. -/
def splitValue (arg : String) : String × Option String :=
  match Text.cutFirst? '=' arg with
  | some (name, value) => (name, some value)
  | none => (arg, none)

/-- The switches that stand together behind one dash. -/
def readSwitches (ps : List Parameter) :
    List Char → Except UsageError (List (Parameter × Option String))
  | [] => .ok []
  | c :: cs =>
    let name := String.ofList ['-', c]
    match named? ps name with
    | some p => ((p, none) :: ·) <$> readSwitches ps cs
    | none => .error (.noSuchOption name [])

def readLong (ps : List Parameter) (arg : String) : Except UsageError Mention :=
  let (name, value) := splitValue arg
  match named? ps name with
  | none => .error (.noSuchOption name (Text.closest name (longNames ps)))
  | some p =>
    match value, p.takesValue with
    | some v, true => .ok (.given [(p, some v)])
    | some _, false => .error (.takesNoValue name)
    | none, true => .ok (.awaits p name)
    | none, false => .ok (.given [(p, none)])

def readMention (ps : List Parameter) (arg : String) : Except UsageError Mention :=
  if isLongName arg then readLong ps arg
  else .given <$> readSwitches ps (arg.toList.drop 1)

/-- A lone dash is an argument like any other. -/
def isMention (arg : String) : Bool := arg.toList.head? == some '-' && decide (1 < arg.length)

/-- Read arguments. The first one that names no parameter ends the reading, unless parameters may
also stand behind it. -/
def read (ps : List Parameter) (mixed : Bool) : List String → Except UsageError Reading
  | [] => .ok {}
  | arg :: args =>
    if arg = "--" then .ok { rest := args }
    else if isMention arg then
      match readMention ps arg with
      | .error e => .error e
      | .ok (.given more) => Reading.addGiven more <$> read ps mixed args
      | .ok (.awaits p name) =>
        match args with
        | [] => .error (.needsArgument name)
        | v :: args => Reading.addGiven [(p, some v)] <$> read ps mixed args
    else if mixed then Reading.addRest arg <$> read ps mixed args
    else .ok { rest := arg :: args }

end RecordSchema.CommandLine
