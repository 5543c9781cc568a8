import RecordSchema.Terminal.Emphasis
import RecordSchema.Terminal.Plain

/-! # The console

A console writes to the two output streams. Without colour it drops every control sequence.
-/
namespace RecordSchema.Terminal

structure Console where
  colour : Bool
deriving DecidableEq, Repr

namespace Console

/-- A text as the console writes it, with or without the end of a line. -/
def put (c : Console) (text : String) (endLine : Bool) : String :=
  let s := if endLine then text ++ "\n" else text
  if c.colour then s else plain s

/-- An error stands out in bright red. -/
def putError (c : Console) (text : String) (endLine : Bool) : String :=
  c.put (String.ofList (rendition 91 ++ text.toList ++ reset)) endLine

/-- Emphasis is left out where there is no colour. -/
def styled (c : Console) (text : String) (e : Emphasis) : Except EmphasisError String :=
  if c.colour then e.apply text else .ok text

/-- Bold text, where there is colour. -/
def embolden (c : Console) (text : String) : String :=
  if c.colour then String.ofList (rendition 1 ++ text.toList ++ reset) else text

end Console

end RecordSchema.Terminal
