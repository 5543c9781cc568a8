import RecordSchema.Terminal.Paint
import RecordSchema.Value

/-! # Emphasis

A text can be given a foreground colour, weight and underline. A colour is a name, a number of the
palette, or three parts of red, green and blue. The sequences stand in front of the text in this
order, and a reset always follows it.
-/
namespace RecordSchema.Terminal

structure Emphasis where
  colour : Value := .null
  bold : Option Bool := none
  underline : Option Bool := none
deriving Repr

/-- The ways in which giving emphasis fails: a colour is unknown, by its text, or it is unknown and
has no text. -/
inductive EmphasisError where
  | unknownColour (shown : String)
  | unwritten (e : WriteError)
deriving DecidableEq, Repr

def EmphasisError.message : EmphasisError → String
  | .unknownColour shown => "Unknown color " ++ shown
  | .unwritten e => e.message

def EmphasisError.of (colour : Value) : EmphasisError :=
  match colour.shown with
  | .ok s => .unknownColour s
  | .error e => .unwritten e

def colours : List (String × Nat) :=
  [("black", 30), ("red", 31), ("green", 32), ("yellow", 33), ("blue", 34), ("magenta", 35),
    ("cyan", 36), ("white", 37), ("reset", 39), ("bright_black", 90), ("bright_red", 91),
    ("bright_green", 92), ("bright_yellow", 93), ("bright_blue", 94), ("bright_magenta", 95),
    ("bright_cyan", 96), ("bright_white", 97)]

def switch (on off : Nat) : Option Bool → List Char
  | none => []
  | some true => rendition on
  | some false => rendition off

/-- A number of the palette, and the strength of a part of a colour. -/
def colourPart? : Value → Option Nat
  | .int (.ofNat n) => if n < 256 then some n else none
  | _ => none

/-- The codes that select a foreground colour. -/
def colourCodes? : Value → Option (List Nat)
  | .text name => (colours.lookup name).map ([·])
  | .list [r, g, b] | .tuple [r, g, b] =>
    ([r, g, b].mapM colourPart?).map ([38, 2] ++ ·)
  | v => (colourPart? v).map ([38, 5, ·])

/-- No colour is asked for by absence. -/
def Emphasis.colourChars (e : Emphasis) : Except EmphasisError (List Char) :=
  match e.colour with
  | .null => .ok []
  | v =>
    match colourCodes? v with
    | some codes => .ok (renditions codes)
    | none => .error (.of v)

def Emphasis.apply (e : Emphasis) (s : String) : Except EmphasisError String := do
  let front ← e.colourChars
  .ok (String.ofList
    (front ++ switch 1 22 e.bold ++ switch 4 24 e.underline ++ s.toList ++ reset))

end RecordSchema.Terminal
