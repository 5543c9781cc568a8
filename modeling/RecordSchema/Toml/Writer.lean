import RecordSchema.Text.Quoted
import RecordSchema.Toml.Key
import RecordSchema.Value

/-! # Writing TOML

A flat table is written one entry a line. Absent values are left out; texts stand between double
quotes with control characters escaped.
-/
namespace RecordSchema.Toml

def shortEscapes : List (Char × Char) :=
  [('\x22', '\x22'), ('\\', '\\'), ('\x08', 'b'), ('\t', 't'), ('\n', 'n'), ('\x0c', 'f'),
    ('\r', 'r')]

def escapeText (c : Char) : List Char :=
  match shortEscapes.lookup c with
  | some e => ['\\', e]
  | none =>
    if c.toNat < 0x20 ∨ c.toNat = 0x7f then ['\\', 'u'] ++ Text.hex 4 c.toNat else [c]

def quotedText (s : String) : String :=
  String.ofList ('\x22' :: (s.toList.flatMap escapeText ++ ['\x22']))

def keyText (k : String) : String :=
  if !k.isEmpty && k.toList.all isBare then k else quotedText k

/-- The text of a value, if a flat table can hold it. -/
def valueText? : Value → Option String
  | .bool b => some (if b then "true" else "false")
  | .int i => some (toString i)
  | .float x => some x.text
  | .text s => some (quotedText s)
  | _ => none

def entryText (e : String × Value) : String :=
  match valueText? e.2 with
  | some t => keyText e.1 ++ " = " ++ t ++ "\n"
  | none => ""

def render (t : Table) : String := String.join (t.map entryText)

end RecordSchema.Toml
