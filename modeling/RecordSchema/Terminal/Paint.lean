import RecordSchema.Text.Cut

/-! # Painting text

A paint is a list of codes, each with a sequence that switches it on and one that switches it off.
Painting closes the codes before every line end and opens them again after it, so that no line
depends on another. Text that is painted already stays in its own colour: the codes are opened again
wherever it switches them off, and stay off between two resets.
-/
namespace RecordSchema.Terminal

def escape : Char := '\x1b'

/-- The sequence that selects a rendition by its codes. -/
def renditions (codes : List Nat) : List Char :=
  [escape, '['] ++ List.intercalate [';'] (codes.map (Nat.toDigits 10)) ++ ['m']

/-- The sequence that selects rendition `n`. -/
def rendition (n : Nat) : List Char := renditions [n]

structure Code where
  on : Nat
  off : Nat
deriving DecidableEq, Repr

abbrev Paint := List Code

def red : Paint := [⟨31, 39⟩]
def green : Paint := [⟨32, 39⟩]
def yellow : Paint := [⟨33, 39⟩]
def blue : Paint := [⟨34, 39⟩]
def gray : Paint := [⟨90, 39⟩]
def brightRed : Paint := [⟨91, 39⟩]
def dimRed : Paint := [⟨2, 22⟩, ⟨31, 39⟩]

def Paint.opening (p : Paint) : List Char := p.flatMap fun c => rendition c.on

def Paint.closing (p : Paint) : List Char := p.flatMap fun c => rendition c.off

/-- Each code is opened again after every place where the text switches it off. -/
def reopen (p : Paint) (cs : List Char) : List Char :=
  p.foldl (fun cs c => Text.replaceAll (rendition c.off) (rendition c.off ++ rendition c.on) cs) cs

def reset : List Char := rendition 0

/-- The length of the shortest piece from the start of the text up to and with a reset, if no line
ends before it. -/
def throughReset? : List Char → Option Nat
  | [] => none
  | c :: cs =>
    if reset.isPrefixOf (c :: cs) then some reset.length
    else if c = '\n' then none
    else (throughReset? cs).map (· + 1)

/-- How long the piece between two resets is that the text begins with. -/
def resetPiece? (cs : List Char) : Option Nat :=
  (Text.dropFront? reset cs).bind fun rest => (throughReset? rest).map (reset.length + ·)

/-- Every piece between two resets is taken out of the paint. `left` counts the characters of such
a piece that are still to come. -/
def sparePieces (opening closing : List Char) : List Char → Nat → List Char
  | [], _ => []
  | c :: cs, 1 => c :: (opening ++ sparePieces opening closing cs 0)
  | c :: cs, left + 2 => c :: sparePieces opening closing cs (left + 1)
  | c :: cs, 0 =>
    match resetPiece? (c :: cs) with
    | some n => closing ++ c :: sparePieces opening closing cs (n - 1)
    | none => c :: sparePieces opening closing cs 0

/-- The paint is closed before every line end and opened after it. -/
def paintLines (opening closing : List Char) : List Char → List Char
  | [] => []
  | '\r' :: '\n' :: cs => closing ++ '\r' :: '\n' :: (opening ++ paintLines opening closing cs)
  | '\n' :: cs => closing ++ '\n' :: (opening ++ paintLines opening closing cs)
  | c :: cs => c :: paintLines opening closing cs

def Paint.chars (p : Paint) (cs : List Char) : List Char :=
  p.opening ++ paintLines p.opening p.closing (sparePieces p.opening p.closing (reopen p cs) 0) ++
    p.closing

def Paint.apply (p : Paint) (s : String) : String := String.ofList (p.chars s.toList)

end RecordSchema.Terminal
