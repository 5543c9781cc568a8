import RecordSchema.Text.Blank
import RecordSchema.Text.Case
import RecordSchema.Text.Digit
import RecordSchema.Text.Quoted
import RecordSchema.Text.Whole

/-! # Log levels

A level is a whole number; the usual ones have names. `readLevel` reads the level that a setting
asks for: a number in the decimal digits of any script, or a name. Characters that look like digits
without being decimal digits make the reading fail instead of being ignored.
-/
namespace RecordSchema.Log

def trace : Int := 5
def debug : Int := 10
def info : Int := 20
def warning : Int := 30
def error : Int := 40
def critical : Int := 50

def levelNames : List (Int × String) :=
  [(0, "NOTSET"), (trace, "TRACE"), (debug, "DEBUG"), (info, "INFO"), (warning, "WARNING"),
    (error, "ERROR"), (critical, "CRITICAL")]

def levelName (level : Int) : String :=
  match levelNames.lookup level with
  | some name => name
  | none => "Level " ++ toString level

/-- The names that a setting may use. -/
def settingNames : List (String × Int) :=
  [("TRACE", trace), ("DEBUG", debug), ("INFO", info), ("WARNING", warning), ("WARN", warning),
    ("ERROR", error), ("CRITICAL", critical), ("FATAL", critical), ("NOTSET", 0)]

inductive LevelError where
  | notDecimal (text : String)
  | tooLong (digits : Nat)
deriving DecidableEq, Repr

/-- A text is shown in a message up to this many characters. -/
def shownLimit : Nat := 200

def LevelError.message : LevelError → String
  | .notDecimal text =>
    "invalid literal for int() with base 10: " ++
      String.ofList ((Text.quoteChars text.toList).take shownLimit)
  | .tooLong digits =>
    "Exceeds the limit (" ++ toString Text.digitLimit ++
      " digits) for integer string conversion: value has " ++ toString digits ++
      " digits; use sys.set_int_max_str_digits() to increase the limit"

def readDigits (cs : List Char) : Except LevelError Int :=
  let decimals := (cs.takeWhile fun c => (Text.decimalValue? c).isSome).length
  if Text.digitLimit < decimals then .error (.tooLong decimals)
  else match Text.readDecimal? cs with
    | some n => .ok n
    | none => .error (.notDecimal (String.ofList cs))

/-- The level that a setting asks for; none when it is absent, empty or no known name. -/
def readLevel : Option String → Except LevelError (Option Int)
  | none => .ok none
  | some s =>
    if s = "" then .ok none else
    let word := Text.upperName (Text.stripChars s.toList)
    if !word.isEmpty && word.all Text.isDigit then some <$> readDigits word
    else .ok (settingNames.lookup (String.ofList word))

end RecordSchema.Log
