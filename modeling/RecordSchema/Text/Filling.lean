import RecordSchema.Text.Cut

/-! # Filling lines

Padding a text to a width, filling words into lines of a width, and shortening a text to a width at
the end of a word.
-/
namespace RecordSchema.Text

def padEnd (width : Nat) (cs : List Char) : List Char :=
  cs ++ List.replicate (width - cs.length) ' '

/-- The text with blanks behind it up to a width. -/
def padded (width : Nat) (s : String) : String := String.ofList (padEnd width s.toList)

def blanks (n : Nat) : String := String.ofList (List.replicate n ' ')

def words (s : String) : List String := splitAtChar ' ' s

def joined (ws : List String) : String := String.intercalate " " ws

/-- The lines that begin with `line`; a word that does not fit begins a line of its own. -/
def fillFrom (width : Nat) (line : String) : List String → List String
  | [] => [line]
  | w :: ws =>
    if line.length + 1 + w.length ≤ width then fillFrom width (line ++ " " ++ w) ws
    else line :: fillFrom width w ws

def fill (width : Nat) (s : String) : List String :=
  match words s with
  | [] => []
  | w :: ws => fillFrom width w ws

def ellipsis : String := "..."

/-- The text itself if it fits, or else as many of its words as fit with an ellipsis. -/
def shorten (width : Nat) (s : String) : String :=
  if s.length ≤ width then s
  else
    let ws := words s
    let fits := fun n => decide ((joined (ws.take n)).length + ellipsis.length ≤ width)
    joined (ws.take ((List.range (ws.length + 1)).reverse.find? fits |>.getD 0)) ++ ellipsis

end RecordSchema.Text
