import RecordSchema.Text.Quoted

/-! # JSON values

A JSON value is written on one line or over indented lines. All that is written is ASCII: every
other character is given by its code in UTF-16, which takes two units outside the basic plane.
-/
namespace RecordSchema

inductive JsonValue where
  | bool (b : Bool)
  | number (n : Int)
  | text (s : String)
  | array (items : List JsonValue)
  | object (entries : List (String × JsonValue))
deriving Repr

namespace JsonValue

def shortEscapes : List (Char × Char) :=
  [('\x22', '\x22'), ('\\', '\\'), ('\n', 'n'), ('\r', 'r'), ('\t', 't'), ('\x0c', 'f'),
    ('\x08', 'b')]

/-- A UTF-16 code unit. -/
def escapeUnit (n : Nat) : List Char := ['\\', 'u'] ++ Text.hex 4 n

def escapeCode (n : Nat) : List Char :=
  if n < 0x10000 then escapeUnit n
  else escapeUnit (0xd800 + (n - 0x10000) / 0x400) ++ escapeUnit (0xdc00 + (n - 0x10000) % 0x400)

def escapeChar (c : Char) : List Char :=
  match shortEscapes.lookup c with
  | some e => ['\\', e]
  | none => if 0x20 ≤ c.toNat ∧ c.toNat < 0x7f then [c] else escapeCode c.toNat

def quotedText (s : String) : String :=
  String.ofList ('\x22' :: (s.toList.flatMap escapeChar ++ ['\x22']))

/-- Two blanks for every level of depth. -/
def indentation (depth : Nat) : String := String.ofList (List.replicate (2 * depth) ' ')

/-- What stands at the inner side of a bracket: nothing on one line, else the start of a line. -/
def lineStart : Option Nat → String
  | none => ""
  | some depth => "\n" ++ indentation depth

/-- What separates two parts. -/
def separator : Option Nat → String
  | none => ", "
  | some depth => "," ++ lineStart (some depth)

/-- Parts between brackets. Without parts the brackets touch. -/
def bracketed (opening closing : String) (depth : Option Nat) (parts : List String) : String :=
  if parts.isEmpty then opening ++ closing
  else
    let inner := depth.map (· + 1)
    opening ++ lineStart inner ++ String.intercalate (separator inner) parts ++ lineStart depth ++
      closing

mutual

/-- The text of a value, at a depth of indentation or on one line. -/
def write (depth : Option Nat) : JsonValue → String
  | bool b => if b then "true" else "false"
  | number n => toString n
  | text s => quotedText s
  | array items => bracketed "[" "]" depth (writeItems (depth.map (· + 1)) items)
  | object entries => bracketed "\x7b" "\x7d" depth (writeEntries (depth.map (· + 1)) entries)

def writeItems (depth : Option Nat) : List JsonValue → List String
  | [] => []
  | v :: vs => write depth v :: writeItems depth vs

def writeEntries (depth : Option Nat) : List (String × JsonValue) → List String
  | [] => []
  | (k, v) :: rest => (quotedText k ++ ": " ++ write depth v) :: writeEntries depth rest

end

def onOneLine (v : JsonValue) : String := v.write none

def indented (v : JsonValue) : String := v.write (some 0)

end JsonValue

end RecordSchema
