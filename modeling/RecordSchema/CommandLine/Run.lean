import RecordSchema.CommandLine.Execution
import RecordSchema.CommandLine.Summary
import RecordSchema.Log.Setup

/-! # Running the program

A call reads the arguments up to the command, begins a session with a log level and a console, reads
the arguments of the command and carries out its task. What it leaves behind is an outcome.
-/
namespace RecordSchema.CommandLine

structure Outcome where
  exitCode : ExitCode
  output : String := ""
  errors : String := ""
  tree : FileTree
  /-- An error that no exit code stands for. -/
  escaped : Option Failure := none
deriving Repr

/-- What holds for a whole call. -/
structure Session where
  level : Int
  console : Terminal.Console
deriving DecidableEq, Repr

/-- The environment's level counts before the one that the flags ask for, but contradicting flags
are an error in any case. -/
def Session.start (w : Surroundings) (r : Reading) : Except Failure Session := do
  let asked ← (verbosity (r.count .verbose) (r.count .quiet)).mapError .verbosity
  let level ← (Log.readLevel w.levelSetting).mapError .level
  return ⟨level.getD asked, ⟨!r.has .noColour⟩⟩

def misused (w : Surroundings) (s : Scope) (e : UsageError) : Outcome :=
  { exitCode := .arguments, errors := e.report s, tree := w.tree }

def helped (w : Surroundings) (s : Scope) : Outcome :=
  { exitCode := .success, output := asLine (helpText s), tree := w.tree }

/-- A reported failure is one line on the error stream, behind the log. -/
def failed (w : Surroundings) (logged : String) (f : Failure) : Outcome :=
  match f.reported? with
  | some code =>
    { exitCode := code, errors := logged ++ Terminal.plain (asLine ("Error: " ++ f.message)),
      tree := w.tree }
  | none => { exitCode := .failure, errors := logged, tree := w.tree, escaped := some f }

def Session.logText (s : Session) (log : List Log.Record) : String :=
  String.join (log.map (Log.Setup.atLevel s.level).output)

/-- What a delivery leaves behind. -/
def Session.finish (s : Session) (w : Surroundings) (x : Logged Failure Delivery) : Outcome :=
  match x.result with
  | .error f => failed w (s.logText x.log) f
  | .ok d =>
    { exitCode := .success, output := String.join (d.output.map fun text => s.console.put text false),
      errors := s.logText x.log ++ summary s.console s.level d.owed, tree := d.tree }

def Session.run (s : Session) (w : Surroundings) (c : Command) (args : List String) : Outcome :=
  match c.read w.tree args with
  | .error e => misused w (.command c) e
  | .ok none => helped w (.command c)
  | .ok (some t) => s.finish w (t.carryOut w s.console)

/-- Without a command there is a hint and the help page. -/
def hintText : String :=
  "Hint: use '" ++ Scope.path (.command .schema) ++ "' to print the GraphQL types.\n\n"

def unknownCommand (w : Surroundings) (name : String) (args : List String) : Outcome :=
  match read programParameters false (name :: args) with
  | .error e => misused w .program e
  | .ok r =>
    if r.has .help then helped w .program
    else misused w .program
      (.noSuchCommand name (Text.closest name (Command.all.map Command.name)))

/-- Begin a session and go on with it. -/
def inSession (w : Surroundings) (r : Reading) (next : Session → Outcome) : Outcome :=
  match Session.start w r with
  | .error f => failed w "" f
  | .ok s => next s

def run (w : Surroundings) (args : List String) : Outcome :=
  match read programParameters false args with
  | .error e => misused w .program e
  | .ok r =>
    if r.has .help then helped w .program
    else match r.rest with
      | [] => inSession w r fun s =>
        { exitCode := .success, tree := w.tree,
          output := s.console.put (hintText ++ asLine (helpText .program)) false }
      | name :: rest =>
        match Command.ofName? name with
        | none => unknownCommand w name rest
        | some c => inSession w r fun s => s.run w c rest

end RecordSchema.CommandLine
