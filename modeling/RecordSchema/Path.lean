import RecordSchema.Text.Cut

/-! # Paths

A path is a root, which is empty for a relative one, and the names on the way. Empty names and
single dots are dropped; a step upwards stays, because what it leads to depends on the files.
-/
namespace RecordSchema

structure Path where
  root : String := ""
  parts : List String
deriving DecidableEq, Repr

namespace Path

/-- Two slashes in front are a root of their own; more of them count as one. -/
def rootOf : List Char → String
  | '/' :: '/' :: '/' :: _ => "/"
  | '/' :: '/' :: _ => "//"
  | '/' :: _ => "/"
  | _ => ""

def isKept (part : String) : Bool := part != "" && part != "."

def ofText (s : String) : Path :=
  ⟨rootOf s.toList, (Text.splitAtChar '/' s).filter isKept⟩

/-- The text of a path; the empty path is a dot. -/
def text (p : Path) : String :=
  if p.root = "" ∧ p.parts = [] then "." else p.root ++ String.intercalate "/" p.parts

/-- The last name, or nothing. -/
def name (p : Path) : String := p.parts.getLastD ""

def child (p : Path) (name : String) : Path := { p with parts := p.parts ++ [name] }

end Path

end RecordSchema
