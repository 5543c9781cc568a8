import RecordSchema.Record.Class

/-! # Making classes

The ancestors of a class are woven from the lines of its bases. The field table of a record class
starts from the tables of its ancestors, farthest first; a field that is declared again keeps its
place. A declaration without a spec takes what the lineage gives to its name.
-/
namespace RecordSchema

/-- A class statement: what a module writes to make a class. -/
structure ClassStatement where
  name : String
  bases : List String := []
  isRecord : Bool := true
  frozen : Bool := false
  declarations : List Declaration
deriving Repr

inductive ClassError where
  | unknownBase (name : String)
  | inconsistentBases (bases : List String)
  | frozenMismatch (frozen : Bool)
  | twoDefaults
  /-- A factory makes a value for each instance, which only fields have. -/
  | factoryOutsideField (field : String)
  /-- A default that can change would be shared between instances. -/
  | changeableDefault (className field : String)
  /-- A spec that an ancestor holds cannot be taken out of the class itself. -/
  | inheritedSpec (className field : String)
deriving DecidableEq, Repr

def ClassError.message : ClassError → String
  | .unknownBase name => "name '" ++ name ++ "' is not defined"
  | .inconsistentBases bases =>
    "Cannot create a consistent method resolution\norder (MRO) for bases " ++
      String.intercalate ", " bases
  | .frozenMismatch true => "cannot inherit frozen dataclass from a non-frozen one"
  | .frozenMismatch false => "cannot inherit non-frozen dataclass from a frozen one"
  | .twoDefaults => "cannot specify both default and default_factory"
  | .factoryOutsideField f => "field " ++ f ++ " cannot have a default factory"
  | .changeableDefault c f =>
    "mutable default <class '" ++ c ++ "'> for field " ++ f ++
      " is not allowed: use default_factory"
  | .inheritedSpec c f => "type object '" ++ c ++ "' has no attribute '" ++ f ++ "'"

/-- The first head that stands in no other line behind its head. -/
def nextAncestor? (lines : List (List Layer)) : Option Layer :=
  (lines.filterMap List.head?).find? fun l =>
    lines.all fun line => (line.drop 1).all fun m => m.name != l.name

/-- Lines of ancestors woven into one that keeps the order of each. If they contradict each other,
the lines that are left. The number of steps bounds the work: each step takes one ancestor. -/
def weave : Nat → List (List Layer) → Except (List (List Layer)) (List Layer)
  | 0, lines => if lines.all List.isEmpty then .ok [] else .error lines
  | n + 1, lines =>
    if lines.all List.isEmpty then .ok []
    else match nextAncestor? lines with
      | none => .error lines
      | some l =>
        (l :: ·) <$> weave n (lines.map fun line =>
          match line with
          | m :: rest => if m.name = l.name then rest else line
          | [] => [])

/-- The classes at which the lines of some bases, and the bases themselves, contradict each other.
A line that is used up still ends in the class that all others inherit from. -/
def contradiction (bases : Nat) (lines : List (List Layer)) : List String :=
  ((lines.take bases).map (fun line => (line.head?.map (·.name.name)).getD "object") ++
    (lines.drop bases).filterMap fun line => line.head?.map (·.name.name)).eraseDups

/-- The ancestors of a class with the given bases, nearest first. -/
def ancestorsOf (bases : List RecordClass) : Except ClassError (List Layer) :=
  let lines := bases.map RecordClass.lineage ++ [bases.map RecordClass.own]
  match weave lines.flatten.length lines with
  | .ok ancestors => .ok ancestors
  | .error stuck => .error (.inconsistentBases (contradiction bases.length stuck))

/-- The table that the ancestors hand down, the nearest of them last. -/
def inheritedTable (ancestors : List Layer) : Named Field :=
  ancestors.reverse.foldl (fun t l => t.putAll (l.table.getD [])) []

/-- The spec of a declaration, or else the one that the lineage holds under its name. -/
def specOf? (ancestors : List Layer) (d : Declaration) : Option FieldSpec :=
  match d.spec with
  | some spec => some spec
  | none =>
    match RecordClass.attribute? ancestors d.name with
    | some (.spec spec) => some spec
    | _ => none

/-- The class of a value that can change. -/
def changeableClass? : Value → Option String
  | .list _ => some "list"
  | .table _ => some "dict"
  | _ => none

/-- The field that a declaration makes. Without a spec it takes what the lineage gives to its name,
a spec as it is and a value as its default. -/
def ownField (ancestors : List Layer) (d : Declaration) : Except ClassError Field :=
  let spec : FieldSpec := match specOf? ancestors d, RecordClass.attribute? ancestors d.name with
    | some spec, _ => spec
    | none, some (.value v) => { default := some v }
    | none, _ => {}
  let role := d.type.role
  if role ≠ .field ∧ spec.factory.isSome then .error (.factoryOutsideField d.name)
  else match (spec.default.bind changeableClass?).filter fun _ => role == .field with
    | some c => .error (.changeableDefault c d.name)
    | none => .ok ⟨d.name, role, spec⟩

def ownFields (ancestors : List Layer) : List Declaration → Except ClassError (List Field)
  | [] => .ok []
  | d :: ds => do
    let f ← ownField ancestors d
    let fs ← ownFields ancestors ds
    .ok (f :: fs)

/-- A record class takes the specs of its fields up: an attribute keeps the default, and without one
it goes away. -/
def takeUp (className : String) (ancestors : List Layer) :
    List Declaration → Except ClassError (Named Attribute)
  | [] => .ok []
  | d :: ds =>
    match specOf? ancestors d with
    | none => takeUp className ancestors ds
    | some spec =>
      match spec.default with
      | some v => ((d.name, .value v) :: ·) <$> takeUp className ancestors ds
      | none =>
        if d.spec.isSome then takeUp className ancestors ds
        else .error (.inheritedSpec className d.name)

/-- The specs that a class which is no record leaves in its attributes. -/
def leftSpecs (ds : List Declaration) : Named Attribute :=
  ds.filterMap fun d => d.spec.map fun s => (d.name, .spec s)

/-- Records agree with the records that they inherit from on whether they can change. -/
def frozenAgrees (s : ClassStatement) (ancestors : List Layer) : Bool :=
  let records := ancestors.filter fun l => l.isRecord
  !s.isRecord || records.isEmpty || records.any (·.frozen) == s.frozen

def findBases (known : Named RecordClass) : List String → Except ClassError (List RecordClass)
  | [] => .ok []
  | n :: ns =>
    match known.lookup n with
    | some c => (c :: ·) <$> findBases known ns
    | none => .error (.unknownBase n)

/-- What a class declares, each name once: the last declaration counts, at the place of the first. -/
def ClassStatement.declared (s : ClassStatement) : List Declaration :=
  (Named.ofList (s.declarations.map fun d => (d.name, d))).map (·.2)

/-- The layer that a statement adds to a lineage. -/
def ClassStatement.layer (s : ClassStatement) (module : String) (bases : List ClassName)
    (ancestors : List Layer) : Except ClassError Layer := do
  let ds := s.declared
  if s.isRecord then
    let fields ← ownFields ancestors ds
    let attributes ← takeUp s.name ancestors ds
    let table := (inheritedTable ancestors).putAll (fields.map fun f => (f.name, f))
    return ⟨⟨module, s.name⟩, ds, true, s.frozen, some table, attributes, bases⟩
  else
    return ⟨⟨module, s.name⟩, ds, false, s.frozen, ancestors.findSome? (·.table), leftSpecs ds,
      bases⟩

def ClassStatement.hasTwoDefaults (s : ClassStatement) : Bool :=
  s.declarations.any fun d => d.spec.any fun p => p.default.isSome && p.factory.isSome

/-- The class that a statement makes in a module, given the classes made before it. -/
def ClassStatement.define (module : String) (known : Named RecordClass) (s : ClassStatement) :
    Except ClassError RecordClass := do
  if s.hasTwoDefaults then throw .twoDefaults
  let bases ← findBases known s.bases
  let ancestors ← ancestorsOf bases
  let layer ← s.layer module (bases.map RecordClass.name) ancestors
  if frozenAgrees s ancestors then .ok ⟨layer, ancestors, ⟨module, [], []⟩⟩
  else .error (.frozenMismatch s.frozen)

end RecordSchema
