import RecordSchema.Text.Printable

/-! # Quoted text

A quoted text stands between single quotes unless it holds a single quote and no double quote.
Backslashes, the chosen quote and every character that is not printable are escaped, the latter by
the shortest of three widths that holds the code point.
-/
namespace RecordSchema.Text

def singleQuote : Char := '\x27'

def doubleQuote : Char := '\x22'

/-- Lower-case hexadecimal digits, padded with zeros to the width. -/
def hex (width n : Nat) : List Char :=
  let digits := Nat.toDigits 16 n
  List.replicate (width - digits.length) '0' ++ digits

def chooseQuote (cs : List Char) : Char :=
  if cs.contains singleQuote && !cs.contains doubleQuote then doubleQuote else singleQuote

def escapeCode (n : Nat) : List Char :=
  if n < 0x100 then ['\\', 'x'] ++ hex 2 n
  else if n < 0x10000 then ['\\', 'u'] ++ hex 4 n
  else ['\\', 'U'] ++ hex 8 n

/-- The short escapes, which strings and bytes share. -/
def shortEscape? (quote c : Char) : Option (List Char) :=
  if c = '\\' then some ['\\', '\\']
  else if c = quote then some ['\\', quote]
  else if c = '\n' then some ['\\', 'n']
  else if c = '\r' then some ['\\', 'r']
  else if c = '\t' then some ['\\', 't']
  else none

def escapeChar (quote c : Char) : List Char :=
  match shortEscape? quote c with
  | some e => e
  | none => if isPrintable c then [c] else escapeCode c.toNat

def quoteChars (cs : List Char) : List Char :=
  let quote := chooseQuote cs
  quote :: (cs.flatMap (escapeChar quote) ++ [quote])

def quoted (s : String) : String := String.ofList (quoteChars s.toList)

/-- A text in which escapes stand for all characters outside ASCII. -/
def asciiOnly (s : String) : String :=
  String.ofList (s.toList.flatMap fun c => if c.toNat < 0x80 then [c] else escapeCode c.toNat)

def escapeByte (quote : Char) (b : UInt8) : List Char :=
  match shortEscape? quote (Char.ofNat b.toNat) with
  | some e => e
  | none =>
    if 0x20 ≤ b.toNat ∧ b.toNat < 0x7f then [Char.ofNat b.toNat] else escapeCode b.toNat

/-- Bytes show as a quoted text with the mark `b` in front. -/
def quotedBytes (bs : List UInt8) : String :=
  let quote := chooseQuote (bs.map fun b => Char.ofNat b.toNat)
  String.ofList ('b' :: quote :: (bs.flatMap (escapeByte quote) ++ [quote]))

end RecordSchema.Text
