import RecordSchema.FileTree
import RecordSchema.Text.Quoted
import RecordSchema.Text.Whole

/-! # Why settings cannot be loaded

The causes that stop the loading of settings. Five of them are no configuration errors: a directory
that cannot be searched, a file that is not UTF-8, a key that a document gives twice inside a part
of it, a header there that opens a table which dotted keys have made, and a value that has to be
written out but has no text.
-/
namespace RecordSchema.Settings

inductive Error where
  | unsearchable (path : String) (cause : FileError)
  | unreadable (path : String) (cause : FileError)
  | malformed (source : String)
  | unknownOverride (key : String)
  | missing (keys : List String)
  | undecodable (fault : Text.Utf8.Fault)
  | keyPresent (key : String)
  | redefined
  | unwritten (e : WriteError)
deriving DecidableEq, Repr

/-- What the system says about a file. -/
def fileMessage (path : String) (e : FileError) : String :=
  "[Errno " ++ toString e.number ++ "] " ++ e.cause ++ ": " ++ Text.quoted path

def reasonText : Text.Utf8.Reason → String
  | .invalidStart => "invalid start byte"
  | .invalidContinuation => "invalid continuation byte"
  | .endOfData => "unexpected end of data"

def faultPlace (f : Text.Utf8.Fault) : String :=
  if f.start + 1 = f.stop then
    "byte 0x" ++ String.ofList (Text.hex 2 f.lead.toNat) ++ " in position " ++ toString f.start
  else "bytes in position " ++ toString f.start ++ "-" ++ toString (f.stop - 1)

/-- The place that stands for what a reader has to say about a malformed document. -/
def parserMark : String := "<toml>"

def Error.message : Error → String
  | .unsearchable path e => fileMessage path e
  | .unreadable path e => "Cannot read settings file " ++ path ++ ": " ++ fileMessage path e
  | .malformed source => "Malformed TOML in " ++ source ++ ": " ++ parserMark
  | .unknownOverride key => "Unknown settings override: " ++ Text.quoted key
  | .missing keys => "Missing settings value(s): " ++ String.intercalate ", " keys
  | .undecodable f =>
    "'utf-8' codec can't decode " ++ faultPlace f ++ ": " ++ reasonText f.reason
  | .keyPresent key => "Key \"" ++ key ++ "\" already exists."
  | .redefined => "Redefinition of an existing table"
  | .unwritten e => e.message

/-- Whether the cause lies in the configuration, as opposed to an error that passes through. -/
def Error.isConfig : Error → Bool
  | .unsearchable .. | .undecodable _ | .keyPresent _ | .redefined | .unwritten _ => false
  | _ => true

end RecordSchema.Settings
