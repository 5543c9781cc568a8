import RecordSchema.CommandLine.Verbosity
import RecordSchema.Library.Lookup
import RecordSchema.Schema.Error
import RecordSchema.Settings.Error

/-! # Failures

What stops a command whose arguments are in order, and the exit code that stands for it. Some
causes have no exit code of their own: these errors pass through as they are.
-/
namespace RecordSchema.CommandLine

inductive ExitCode where
  | success
  | failure
  /-- The arguments cannot be read. -/
  | arguments
  | usage
  | schema
  | writing
  | settings
deriving DecidableEq, Repr

def ExitCode.number : ExitCode → Nat
  | success => 0
  | failure => 1
  | arguments => 2
  | usage => 64
  | schema => 65
  | writing => 74
  | settings => 78

inductive Failure where
  | verbosity (e : VerbosityError)
  | level (e : Log.LevelError)
  | settings (e : Settings.Error)
  | record (e : Library.LoadError)
  | schema (e : SchemaError)
  | writing (path : String) (e : FileError)
deriving Repr

namespace Failure

def message : Failure → String
  | verbosity e => e.message
  | level e => e.message
  | settings e => e.message
  | record e => e.message
  | schema e => e.message
  | writing path e => "Cannot write " ++ path ++ ": " ++ Settings.fileMessage path e

/-- The exit code of a failure that is reported; none if it passes through. -/
def reported? : Failure → Option ExitCode
  | verbosity _ => some .usage
  | level _ => none
  | settings e => if e.isConfig then some .settings else none
  | record e => if e.isRecordLoad then some .settings else none
  | schema e => if e.isBuild then some .schema else none
  | writing .. => some .writing

def exitCode (f : Failure) : ExitCode := f.reported?.getD .failure

end Failure

end RecordSchema.CommandLine
