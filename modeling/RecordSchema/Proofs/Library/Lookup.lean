import RecordSchema.Library.Lookup
import RecordSchema.Proofs.Text.Cut

/-! # Finding a record

`Finds` says what a record path leads to, `Misses` why it leads nowhere: there is no colon in it, one
of its parts is empty, the module is asked for relative to a package, there is no such module, or
some name is no attribute of what the names before it lead to. One of these holds of every path.
-/
namespace RecordSchema.Library
variable {library : Library} {path module attributes name : String} {m : Module} {o a : Object}
  {names : List String} {e : LoadError}

/-- What a path of names leads to in a module, one attribute after the other. -/
inductive Module.Leads (m : Module) : List String → Object → Prop
  | member {name : String} {o : Object} (h : m.members.lookup name = some o) : Leads m [name] o
  | further {names : List String} {o : Object} {name : String} {a : Object}
      (hl : Leads m names o) (h : o.attribute? name = some a) : Leads m (names ++ [name]) a

/-- Some name on a path is no attribute of what the names before it lead to. -/
inductive Module.Lacks (m : Module) : List String → Prop
  | member {name : String} (h : m.members.lookup name = none) (rest : List String) :
      Lacks m (name :: rest)
  | further {names : List String} {o : Object} {name : String} (hl : m.Leads names o)
      (h : o.attribute? name = none) (rest : List String) : Lacks m (names ++ name :: rest)

/-- Names with dots between them. -/
structure Spells (names : List String) (attributes : String) : Prop where
  ne_nil : names ≠ []
  undotted : ∀ name ∈ names, '.' ∉ name.toList
  eq : attributes = String.intercalate "." names

/-- The parts of a path on both sides of its first colon, with something on each. -/
structure Parts (path module attributes : String) : Prop where
  eq : path = module ++ ":" ++ attributes
  first : ':' ∉ module.toList
  module_ne : module ≠ ""
  attributes_ne : attributes ≠ ""

inductive Finds (library : Library) (path : String) : Object → Prop
  | intro {module attributes : String} {m : Module} {names : List String} {o : Object}
      (hp : Parts path module attributes) (hr : module.toList.head? ≠ some '.')
      (hm : library.module? module = some m) (hn : Spells names attributes)
      (hl : m.Leads names o) : Finds library path o

inductive Misses (library : Library) (path : String) : LoadError → Prop
  | uncut (h : ':' ∉ path.toList) : Misses library path (.invalidPath path)
  | emptyPart {module attributes : String} (he : path = module ++ ":" ++ attributes)
      (hf : ':' ∉ module.toList) (h : module = "" ∨ attributes = "") :
      Misses library path (.invalidPath path)
  | relative {module attributes : String} (hp : Parts path module attributes)
      (hr : module.toList.head? = some '.') : Misses library path (.relative module)
  | noModule {module attributes : String} (hp : Parts path module attributes)
      (hr : module.toList.head? ≠ some '.') (hm : library.module? module = none) :
      Misses library path
        (.notImportable module (importError library (enclosing module)))
  | noAttribute {module attributes : String} {m : Module} {names : List String}
      (hp : Parts path module attributes) (hr : module.toList.head? ≠ some '.')
      (hm : library.module? module = some m) (hn : Spells names attributes)
      (hl : m.Lacks names) : Misses library path (.noAttribute module attributes)

/-! ## Attributes -/

theorem Module.follow?_append (h : names ≠ []) (more : List String) :
    m.follow? (names ++ more) = (m.follow? names).bind fun o => o.follow? more := by
  obtain ⟨name, rest, rfl⟩ := List.exists_cons_of_ne_nil h
  rw [List.cons_append, follow?, follow?, Option.bind_assoc]
  simp only [Object.follow?_append]

theorem Module.Leads.ne_nil (h : m.Leads names o) : names ≠ [] := by
  cases h with
  | member h => exact List.cons_ne_nil _ _
  | further hl h => simp

theorem Module.Leads.follow?_eq (h : m.Leads names o) : m.follow? names = some o := by
  induction h with
  | member h => simp [follow?, h, Object.follow?]
  | further hl h ih => simp [follow?_append hl.ne_nil, ih, Object.follow?, h]

theorem Module.Lacks.follow?_eq (h : m.Lacks names) : m.follow? names = none := by
  cases h with
  | member h rest => simp [follow?, h]
  | further hl h rest => simp [follow?_append hl.ne_nil, hl.follow?_eq, Object.follow?, h]

/-- Each further name is an attribute, or it is the one that is lacking. -/
theorem Module.Leads.leads_or_lacks (h : m.Leads names o) (more : List String) :
    (∃ a, m.Leads (names ++ more) a) ∨ m.Lacks (names ++ more) := by
  induction more generalizing names o with
  | nil =>
    rw [List.append_nil]
    exact .inl ⟨o, h⟩
  | cons name more ih =>
    cases ha : o.attribute? name with
    | none => exact .inr (.further h ha more)
    | some a =>
      have hnext := ih (h.further ha)
      rwa [List.append_assoc] at hnext

theorem Module.leads_or_lacks (m : Module) (h : names ≠ []) :
    (∃ o, m.Leads names o) ∨ m.Lacks names := by
  obtain ⟨name, rest, rfl⟩ := List.exists_cons_of_ne_nil h
  cases ho : m.members.lookup name with
  | none => exact .inr (.member ho rest)
  | some o =>
    have hl : m.Leads [name] o := .member ho
    exact hl.leads_or_lacks rest

theorem exists_spells (attributes : String) : ∃ names, Spells names attributes := by
  obtain ⟨hn, hu, he⟩ := Text.splitAtChar_eq_iff.mp (rfl : Text.splitAtChar '.' attributes = _)
  exact ⟨_, hn, hu, he⟩

theorem Spells.splitAtChar_eq (h : Spells names attributes) :
    Text.splitAtChar '.' attributes = names :=
  Text.splitAtChar_eq_iff.mpr ⟨h.ne_nil, h.undotted, h.eq⟩

/-! ## Paths -/

theorem ofText?_append (hf : ':' ∉ module.toList) :
    RecordPath.ofText? (module ++ ":" ++ attributes) =
      if module = "" ∨ attributes = "" then none else some ⟨module, attributes⟩ := by
  have hc : Text.cutFirst? ':' (module ++ ":" ++ attributes) = some (module, attributes) :=
    Text.cutFirst?_append hf
  rw [RecordPath.ofText?, hc]

theorem Parts.ofText?_eq (hp : Parts path module attributes) :
    RecordPath.ofText? path = some ⟨module, attributes⟩ := by
  rw [hp.eq, ofText?_append hp.first, if_neg (not_or.mpr ⟨hp.module_ne, hp.attributes_ne⟩)]

theorem Parts.find_of_error (hp : Parts path module attributes)
    (h : loadModule library module = .error e) : library.find path = .error e := by
  simp only [find, hp.ofText?_eq, h, error_bind]

theorem Parts.find_of_ok (hp : Parts path module attributes)
    (h : loadModule library module = .ok m) (hn : Spells names attributes) :
    library.find path =
      (m.follow? names).elim (.error (.noAttribute module attributes)) .ok := by
  simp only [find, hp.ofText?_eq, h, ok_bind, hn.splitAtChar_eq]
  cases m.follow? names <;> rfl

theorem loadModule_of_relative (h : module.toList.head? = some '.') :
    loadModule library module = .error (.relative module) := by
  simp [loadModule, isRelative, h]

theorem loadModule_of_some (h : module.toList.head? ≠ some '.')
    (hm : library.module? module = some m) : loadModule library module = .ok m := by
  simp [loadModule, isRelative, h, hm]

theorem loadModule_of_none (h : module.toList.head? ≠ some '.')
    (hm : library.module? module = none) : loadModule library module =
      .error (.notImportable module (importError library (enclosing module))) := by
  simp [loadModule, isRelative, h, hm]

theorem Finds.find_eq (h : Finds library path o) : library.find path = .ok o := by
  cases h with
  | intro hp hr hm hn hl =>
    rw [hp.find_of_ok (loadModule_of_some hr hm) hn, hl.follow?_eq, Option.elim]

theorem Misses.find_eq (h : Misses library path e) : library.find path = .error e := by
  cases h with
  | uncut h => simp [find, RecordPath.ofText?, Text.cutFirst?_of_not_mem h]
  | emptyPart he hf h => rw [he, find, ofText?_append hf, if_pos h]
  | relative hp hr => exact hp.find_of_error (loadModule_of_relative hr)
  | noModule hp hr hm => exact hp.find_of_error (loadModule_of_none hr hm)
  | noAttribute hp hr hm hn hl =>
    rw [hp.find_of_ok (loadModule_of_some hr hm) hn, hl.follow?_eq, Option.elim]

theorem finds_or_misses (library : Library) (path : String) :
    (∃ o, Finds library path o) ∨ ∃ e, Misses library path e := by
  by_cases hc : ':' ∈ path.toList
  · obtain ⟨module, attributes, he, hf⟩ := Text.exists_cut hc
    by_cases hempty : module = "" ∨ attributes = ""
    · exact .inr ⟨_, .emptyPart he hf hempty⟩
    · obtain ⟨hm, ha⟩ := not_or.mp hempty
      have hp : Parts path module attributes := ⟨he, hf, hm, ha⟩
      by_cases hr : module.toList.head? = some '.'
      · exact .inr ⟨_, .relative hp hr⟩
      · cases hmod : library.module? module with
        | none => exact .inr ⟨_, .noModule hp hr hmod⟩
        | some m =>
          obtain ⟨names, hn⟩ := exists_spells attributes
          rcases m.leads_or_lacks hn.ne_nil with ⟨o, hl⟩ | hl
          · exact .inl ⟨o, .intro hp hr hmod hn hl⟩
          · exact .inr ⟨_, .noAttribute hp hr hmod hn hl⟩
  · exact .inr ⟨_, .uncut hc⟩

theorem find_eq_ok_iff : library.find path = .ok o ↔ Finds library path o := by
  refine ⟨fun h => ?_, Finds.find_eq⟩
  rcases finds_or_misses library path with ⟨a, ha⟩ | ⟨e, he⟩
  · cases ha.find_eq.symm.trans h
    exact ha
  · cases he.find_eq.symm.trans h

theorem find_eq_error_iff : library.find path = .error e ↔ Misses library path e := by
  refine ⟨fun h => ?_, Misses.find_eq⟩
  rcases finds_or_misses library path with ⟨a, ha⟩ | ⟨e, he⟩
  · cases ha.find_eq.symm.trans h
  · cases he.find_eq.symm.trans h
    exact he

theorem resolve_result (library : Library) (path : String) :
    (library.resolve path).result = library.find path := by
  simp only [resolve, Logged.result_bind, Logged.result_of, Logged.result_write, ok_bind,
    Logged.result_pure]
  cases library.find path <;> rfl

/-- Only a module that is asked for relative to a package is no failure of the record. -/
theorem Misses.isRecordLoad_eq_false_iff (h : Misses library path e) :
    e.isRecordLoad = false ↔ ∃ module, e = .relative module := by
  cases h <;> simp [LoadError.isRecordLoad]

end RecordSchema.Library
