/-! # Built-in classes

The classes that come with every module. Each inherits from its ancestors and gives its instances
members of several kinds; the names of the members of a kind are kept as one text of words.
-/
namespace RecordSchema

/-- What a member of a class is to an instance: something to call, a function that the class is
written with, an operator, a value that is worked out, a value that is kept, something that is bound
to the class, or nothing at all. -/
inductive MemberKind where
  | method
  | function
  | operator
  | computed
  | kept
  | bound
  | absent
deriving DecidableEq, Repr

structure BuiltinClass where
  name : String
  ancestors : List String
  methods : String := ""
  functions : String := ""
  operators : String := ""
  computed : String := ""
  kept : String := ""
  bound : String := ""
  absent : String := ""
deriving Repr

end RecordSchema
