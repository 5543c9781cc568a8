/-! # Blocks

A block is a head line with an opening brace, lines that are indented by their depth, and a closing
brace. Lines keep the order in which they are added.
-/
namespace RecordSchema

structure BlockLine where
  depth : Int
  text : String
deriving DecidableEq, Repr

/-- A depth below zero indents as little as zero. -/
def BlockLine.render (l : BlockLine) : String :=
  String.ofList (List.replicate l.depth.toNat '\t') ++ l.text ++ "\n"

structure Block where
  head : String
  lines : List BlockLine := []
deriving DecidableEq, Repr

namespace Block

def add (b : Block) (depth : Int) (text : String) : Block :=
  { b with lines := b.lines ++ [⟨depth, text⟩] }

/-- A name and its type with the mark that says whether it may be absent. -/
def fieldText (name type mark : String) : String := name ++ ": " ++ type ++ mark

def addField (b : Block) (name type mark : String) : Block := b.add 1 (fieldText name type mark)

def opening (b : Block) : String := b.head ++ " \x7b\n"

def closing : String := "\x7d\n"

def text (b : Block) : String := b.opening ++ String.join (b.lines.map BlockLine.render) ++ closing

end Block

end RecordSchema
