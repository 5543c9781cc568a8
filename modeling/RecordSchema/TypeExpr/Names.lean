import RecordSchema.TypeExpr.Basic

/-! # Names that every module knows

The classes and aliases that an annotation can name without declaring them, among them the aliases
for whole numbers of a fixed width.
-/
namespace RecordSchema.TypeExpr

def widthModule : String := "confql.config.types"

/-- An alias of whole numbers that carries a width. -/
def width (name : String) : TypeExpr := synonym 0 ⟨widthModule, name⟩ intType

def builtinNames : List String :=
  ["int", "str", "bool", "float", "bytes", "complex", "object", "NoneType", "list", "tuple", "dict",
    "set", "frozenset", "type"]

def widthNames : List String :=
  ["Int8", "Int16", "Int32", "Int64", "UInt8", "UInt16", "UInt32", "UInt64"]

def bundledClass : ClassName := ⟨"confql.config.global_config", "GlobalConfig"⟩

def known : List (String × TypeExpr) :=
  builtinNames.map (fun n => (n, builtin n)) ++
    [("timedelta", durationType), ("date", cls ⟨"datetime", "date"⟩),
      ("datetime", cls ⟨"datetime", "datetime"⟩), ("Any", cls ⟨"typing", "Any"⟩),
      ("Sequence", cls ⟨"collections.abc", "Sequence"⟩)] ++
    widthNames.map (fun n => (n, width n)) ++
    [("GlobalConfig", cls bundledClass)]

/-- The containers that take arguments, by the names they are asked for. -/
def containers : List (String × Container) :=
  [("list", ⟨"list", .list, false, none⟩), ("tuple", ⟨"tuple", .tuple, false, none⟩),
    ("dict", ⟨"dict", .other, false, none⟩), ("set", ⟨"set", .other, false, none⟩),
    ("frozenset", ⟨"frozenset", .other, false, none⟩), ("type", ⟨"type", .other, false, none⟩),
    ("deque", ⟨"collections.deque", .other, false, none⟩),
    ("Sequence", ⟨"collections.abc.Sequence", .sequence, false, none⟩),
    ("MutableSequence", ⟨"collections.abc.MutableSequence", .other, false, none⟩),
    ("Iterable", ⟨"collections.abc.Iterable", .other, false, none⟩),
    ("Collection", ⟨"collections.abc.Collection", .other, false, none⟩),
    ("typing.List", ⟨"typing.List", .list, true, some 1⟩),
    ("typing.Tuple", ⟨"typing.Tuple", .tuple, true, none⟩),
    ("typing.Sequence", ⟨"typing.Sequence", .sequence, true, some 1⟩),
    ("typing.Dict", ⟨"typing.Dict", .other, true, some 2⟩),
    ("typing.FrozenSet", ⟨"typing.FrozenSet", .other, true, some 1⟩),
    ("typing.Iterable", ⟨"typing.Iterable", .other, true, some 1⟩)]

end RecordSchema.TypeExpr
