import RecordSchema.Text.Filling
import RecordSchema.Value

/-! # Built-in names

The names that are known without any module: classes, errors, functions and a few single objects.
-/
namespace RecordSchema.Builtin

def classNames : List String :=
  Text.words ("bool bytearray bytes classmethod complex dict enumerate filter float frozenset int" ++
    " list map memoryview object property range reversed set slice staticmethod str super tuple" ++
    " type zip")

/-- The classes of errors by what they inherit from. -/
def errorFamilies : List (String × String) := [
  ("BaseException", "BaseExceptionGroup Exception GeneratorExit KeyboardInterrupt SystemExit"),
  ("BaseExceptionGroup", "ExceptionGroup"),
  ("Exception", "ArithmeticError AssertionError AttributeError BufferError EOFError ImportError" ++
    " LookupError MemoryError NameError OSError ReferenceError RuntimeError StopAsyncIteration" ++
    " StopIteration SyntaxError SystemError TypeError ValueError Warning"),
  ("ArithmeticError", "FloatingPointError OverflowError ZeroDivisionError"),
  ("ImportError", "ModuleNotFoundError"),
  ("LookupError", "IndexError KeyError"),
  ("NameError", "UnboundLocalError"),
  ("OSError", "BlockingIOError ChildProcessError ConnectionError FileExistsError" ++
    " FileNotFoundError InterruptedError IsADirectoryError NotADirectoryError PermissionError" ++
    " ProcessLookupError TimeoutError"),
  ("ConnectionError", "BrokenPipeError ConnectionAbortedError ConnectionRefusedError" ++
    " ConnectionResetError"),
  ("RuntimeError", "NotImplementedError RecursionError"),
  ("SyntaxError", "IndentationError"),
  ("IndentationError", "TabError"),
  ("ValueError", "UnicodeError"),
  ("UnicodeError", "UnicodeDecodeError UnicodeEncodeError UnicodeTranslateError"),
  ("Warning", "BytesWarning DeprecationWarning EncodingWarning FutureWarning ImportWarning" ++
    " PendingDeprecationWarning ResourceWarning RuntimeWarning SyntaxWarning UnicodeWarning" ++
    " UserWarning")]

def errorNames : List String :=
  "BaseException" :: errorFamilies.flatMap fun f => Text.words f.2

/-- The class that a class of errors inherits from. -/
def errorParent? (name : String) : Option String :=
  (errorFamilies.find? fun f => (Text.words f.2).contains name).map (·.1)

/-- The classes that a class of errors inherits from, nearest first. The family has six ranks. -/
def errorLineage (name : String) : List String :=
  let rec climb : Nat → String → List String
    | 0, _ => []
    | n + 1, c =>
      match errorParent? c with
      | some p => p :: climb n p
      | none => []
  climb 6 name ++ ["object"]

def functionNames : List String :=
  Text.words ("__build_class__ __import__ abs aiter all anext any ascii bin breakpoint callable chr" ++
    " compile delattr dir divmod eval exec format getattr globals hasattr hash hex id input" ++
    " isinstance issubclass iter len locals max min next oct open ord pow print repr round" ++
    " setattr sorted sum vars")

def builtinClass (name : String) : Value := .cls ⟨"builtins", name⟩

def objects : List (String × Value) := [
  ("EnvironmentError", builtinClass "OSError"), ("IOError", builtinClass "OSError"),
  ("Ellipsis", .thing "ellipsis" "Ellipsis"),
  ("NotImplemented", .thing "NotImplementedType" "NotImplemented"), ("__debug__", .bool true),
  ("exit", .thing "Quitter" "Use exit() or Ctrl-D (i.e. EOF) to exit"),
  ("quit", .thing "Quitter" "Use quit() or Ctrl-D (i.e. EOF) to exit"),
  ("help", .thing "_Helper"
    "Type help() for interactive help, or help(object) for help about object.")]

/-- What a name stands for everywhere. -/
def named? (name : String) : Option Value :=
  if classNames.contains name || errorNames.contains name then some (builtinClass name)
  else if functionNames.contains name then
    some (.thing "builtin_function_or_method" ("<built-in function " ++ name ++ ">"))
  else objects.lookup name

end RecordSchema.Builtin
