import RecordSchema.Log.Interpolation
import RecordSchema.Log.Level
import RecordSchema.Log.Record
import RecordSchema.Terminal.Paint
import RecordSchema.Text.Identifier

/-! # Log lines

A layout is a template whose directives name attributes of a record: its level, its logger and its
message among them. Places of calls are not kept; a mark stands for them. The line is painted by
severity.
-/
namespace RecordSchema.Log

def placeTemplate : String := "[%(filename)s:%(lineno)d] [%(funcName)s]"

def placeMark : String := "[LOC]"

/-- The layout of warnings and of everything that an ordinary run shows. -/
def ordinaryTemplate : String := "[%(levelname)s] %(message)s"

/-- The layout that also names the place of the call. -/
def detailedTemplate : String := "[%(levelname)s] " ++ placeTemplate ++ " %(message)s"

def loggerName : String := "confql"

inductive LayoutError where
  /-- Nothing in the template refers to the record. -/
  | noDirective (template : String)
  | unknownField (name : String)
  | unfillable (cause : TemplateError)
deriving DecidableEq, Repr

def LayoutError.message : LayoutError → String
  | .noDirective template => "Invalid format '" ++ template ++ "' for '%' style"
  | .unknownField name => "Formatting field not found in record: " ++ Text.quoted name
  | .unfillable cause => cause.message

/-- A number or a star, if one stands here, and the rest. -/
def dropNumber : List Char → List Char
  | '*' :: cs => cs
  | cs => cs.dropWhile fun c => (Text.decimalValue? c).isSome

def isFlag (c : Char) : Bool := ['#', '0', '+', ' ', '-'].contains c

def isConversion (c : Char) : Bool := "diouxefgcrsa%".toList.contains c.toLower

/-- Whether a key in brackets and the rest of a directive follow a percent sign. -/
def refersToRecord : List Char → Bool
  | '(' :: cs =>
    let key := cs.takeWhile Text.isNamePart
    match key, cs.dropWhile Text.isNamePart with
    | _ :: _, ')' :: rest =>
      let rest := dropNumber (rest.dropWhile isFlag)
      let rest := match rest with
        | '.' :: r => if (dropNumber r).length < r.length then dropNumber r else rest
        | _ => rest
      (rest.head?.map isConversion).getD false
    | _, _ => false
  | _ => false

def hasDirective : List Char → Bool
  | [] => false
  | '%' :: cs => refersToRecord cs || hasDirective cs
  | _ :: cs => hasDirective cs

/-- A layout has to refer to the record. -/
def checkLayout (template : String) : Except LayoutError Unit :=
  if hasDirective template.toList then .ok () else .error (.noDirective template)

def attributes (r : Record) : Table :=
  [("name", .text loggerName), ("levelname", .text (levelName r.level)), ("levelno", .int r.level),
    ("message", .text r.message)]

/-- The paint of a level: that of the highest severity that it reaches. -/
def paintOf (level : Int) : Terminal.Paint :=
  if critical ≤ level then Terminal.brightRed
  else if error ≤ level then Terminal.red
  else if warning ≤ level then Terminal.yellow
  else if info ≤ level then Terminal.green
  else if debug ≤ level then Terminal.gray
  else if trace ≤ level then Terminal.blue
  else Terminal.dimRed

/-- The text of a record in a layout. `more` holds attributes that the record itself does not have. -/
def lineText (template : String) (more : Table) (r : Record) : Except LayoutError String :=
  let table := attributes r ++ more
  match fillWith (Text.replace placeTemplate placeMark template) (some table)
      (.single (some (.table table))) with
  | .ok s => .ok s
  | .error (.unknownKey name) => .error (.unknownField name)
  | .error e => .error (.unfillable e)

def line (template : String) (more : Table) (r : Record) : Except LayoutError String :=
  (paintOf r.level).apply <$> lineText template more r

end RecordSchema.Log
