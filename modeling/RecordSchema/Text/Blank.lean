import RecordSchema.Text.Range

/-! # White space

The blank characters are those of Unicode white space together with the four information
separators. `strip` drops them at both ends of a text and nowhere else.
-/
namespace RecordSchema.Text

def blankRuns : List (Nat × Nat) :=
  [(0x09, 0x0d), (0x1c, 0x20), (0x85, 0x85), (0xa0, 0xa0), (0x1680, 0x1680), (0x2000, 0x200a),
    (0x2028, 0x2029), (0x202f, 0x202f), (0x205f, 0x205f), (0x3000, 0x3000)]

def isBlank (c : Char) : Bool := inRanges blankRuns c.toNat

def stripEnd (cs : List Char) : List Char := (cs.reverse.dropWhile isBlank).reverse

def stripChars (cs : List Char) : List Char := stripEnd (cs.dropWhile isBlank)

/-- The text without the blanks at its two ends. -/
def strip (s : String) : String := String.ofList (stripChars s.toList)

/-- Nothing is left of a text that holds blanks only. -/
def isBlankText (s : String) : Bool := s.toList.all isBlank

end RecordSchema.Text
