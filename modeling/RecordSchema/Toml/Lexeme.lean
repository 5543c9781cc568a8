import RecordSchema.Text.Cut

/-! # Reading TOML: the small pieces

A reader takes the characters that are left and yields what it read together with what follows it.
Blanks, comments and line ends are here, with the ways in which a document can be refused.
-/
namespace RecordSchema.Toml

inductive Fault where
  /-- The text is no TOML document. -/
  | malformed
  /-- A closing bracket stands where something else is due. A list around that place ends there. -/
  | bracket (rest : List Char)
  /-- A key is given twice where only one entry can be added to a table. -/
  | keyPresent (key : String)
  /-- A header opens a table that dotted keys have made. -/
  | redefined
deriving DecidableEq, Repr

abbrev Reader (α : Type) := List Char → Except Fault (α × List Char)

def bad {α : Type} : Except Fault α := .error .malformed

/-- The refusal of a character in the place of what is due. -/
def due {α : Type} (cs : List Char) : Except Fault α :=
  match cs with
  | ']' :: _ => .error (.bracket cs)
  | _ => bad

/-- Blanks inside a line. -/
def isSpace (c : Char) : Bool := c == ' ' || c == '\t'

def skipSpaces (cs : List Char) : List Char := cs.dropWhile isSpace

/-- Characters that no comment or text on one line may hold. -/
def isControl (c : Char) : Bool := (decide (c.toNat < 0x20) && c != '\t') || c.toNat == 0x7f

/-- The characters after a comment, up to and without the line end. -/
def skipComment (cs : List Char) : Except Fault (List Char) :=
  if (cs.takeWhile (· != '\n')).any isControl then bad else .ok (cs.dropWhile (· != '\n'))

/-- What follows the end of a line; only blanks and a comment may stand before it. -/
def endLine (cs : List Char) : Except Fault (List Char) :=
  match skipSpaces cs with
  | [] => .ok []
  | '\n' :: rest => .ok rest
  | '#' :: rest => do
    match ← skipComment rest with
    | [] => .ok []
    | _ :: rest => .ok rest
  | _ => bad

/-- What ends a number, a date or a word. -/
def endsToken (c : Char) : Bool :=
  isSpace c || c == '\n' || c == '\r' || c == '#' || c == ',' || c == ']' || c == '\x7d'

/-- The token at the front and what follows it. -/
def token (cs : List Char) : List Char × List Char :=
  (cs.takeWhile fun c => !endsToken c, cs.dropWhile fun c => !endsToken c)

end RecordSchema.Toml
