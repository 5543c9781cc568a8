import RecordSchema.Log.Level

/-! # Verbosity

The log level that the counts of two opposite flags ask for. They cannot be given together.
-/
namespace RecordSchema.CommandLine

inductive VerbosityError where
  | contradiction
deriving DecidableEq, Repr

def VerbosityError.message : VerbosityError → String
  | .contradiction => "The '--verbose' and '--quiet' options are mutually exclusive."

def verbosity (verbose quiet : Int) : Except VerbosityError Int :=
  if 0 < verbose ∧ 0 < quiet then .error .contradiction
  else if 3 ≤ verbose then .ok Log.trace
  else if verbose = 2 then .ok Log.debug
  else if verbose = 1 then .ok Log.info
  else if 1 ≤ quiet then .ok Log.error
  else .ok Log.warning

end RecordSchema.CommandLine
