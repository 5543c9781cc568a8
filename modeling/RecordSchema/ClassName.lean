/-! # Names of classes

A class is known by the module that makes it and its own name there.
-/
namespace RecordSchema

structure ClassName where
  module : String
  name : String
deriving DecidableEq, Repr, Inhabited

namespace ClassName

/-- The name of a class inside a larger text; the built-in classes go without a module. -/
def full (c : ClassName) : String :=
  if c.module = "builtins" then c.name else c.module ++ "." ++ c.name

/-- Any type at all is written by its name only. -/
def shown (c : ClassName) : String :=
  if c = ⟨"typing", "Any"⟩ then c.full else "<class '" ++ c.full ++ "'>"

end ClassName

end RecordSchema
