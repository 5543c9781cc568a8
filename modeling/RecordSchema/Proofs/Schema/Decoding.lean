import Mathlib.Data.List.DropRight
import RecordSchema.Proofs.Name.Letters
import RecordSchema.Proofs.Schema.Comparison
import RecordSchema.Proofs.Schema.Meaning

/-! # Reading a schema back

The line of a field is a name of letters and digits, a colon and a type. So the lines of a block and
their parts are told apart whatever the blocks are called: the fields of the output block begin
behind a head of known length, and those of the input block behind the last opening brace.
-/
namespace RecordSchema
variable {mark : String} {e : Entry} {es : List Entry} {c : Char}

def entryLine (mark : String) (e : Entry) : List Char :=
  '\t' :: (Block.fieldText e.1 e.2.name mark).toList

def entryLines (mark : String) (es : List Entry) : List Char :=
  es.flatMap fun e => entryLine mark e ++ ['\n']

def readEntry (mark : String) : List Char → Option Entry
  | '\t' :: cs =>
    let rest := cs.dropWhile Char.isAlphanum
    (SchemaType.all.find? fun t => rest == (": " ++ t.name ++ mark).toList).map fun t =>
      (String.ofList (cs.takeWhile Char.isAlphanum), t)
  | _ => none

/-- The fields of the lines in front of the first one that holds none. -/
def readEntries (mark : String) : List (List Char) → List Entry
  | [] => []
  | l :: ls =>
    match readEntry mark l with
    | some e => e :: readEntries mark ls
    | none => []

/-- The fields of the output block, for the name that it has. -/
def readOutput (name text : String) : List Entry :=
  let v := View.output name
  readEntries v.mark ((text.toList.drop (v.head ++ " \x7b\n").length).splitOn '\n')

/-- The fields of the input block, whatever its name. -/
def readInput (text : String) : List Entry :=
  readEntries "" ((text.toList.rtakeWhile (· != '\x7b')).drop 1 |>.splitOn '\n')

theorem SchemaType.name_injective {t u : SchemaType} (h : t.name = u.name) : t = u := by
  revert h
  cases t <;> cases u <;> decide

theorem find?_type (t : SchemaType) :
    (SchemaType.all.find? fun u => (": " ++ t.name ++ mark).toList ==
      (": " ++ u.name ++ mark).toList) = some t := by
  have hd : (fun u : SchemaType => (": " ++ t.name ++ mark).toList ==
      (": " ++ u.name ++ mark).toList) = fun u => t == u := by
    funext u
    rw [Bool.eq_iff_iff, beq_iff_eq, beq_iff_eq, String.toList_inj]
    constructor
    · intro h
      have ha := congrArg String.toList h
      rw [String.toList_append, String.toList_append, String.toList_append, String.toList_append,
        List.append_left_inj, List.append_right_inj] at ha
      exact SchemaType.name_injective (String.toList_inj.mp ha)
    · rintro rfl
      rfl
  rw [hd]
  cases t <;> rfl

theorem readEntry_entryLine (hn : ∀ c ∈ e.1.toList, c.isAlphanum) :
    readEntry mark (entryLine mark e) = some e := by
  have ht : (Block.fieldText e.1 e.2.name mark).toList =
      e.1.toList ++ (": " ++ e.2.name ++ mark).toList := by
    simp only [Block.fieldText, String.toList_append, List.append_assoc]
  have hc : (": " ++ e.2.name ++ mark).toList = ':' :: (" " ++ e.2.name ++ mark).toList := by
    simp only [String.toList_append]
    rfl
  have hname : (e.1.toList ++ (": " ++ e.2.name ++ mark).toList).takeWhile Char.isAlphanum =
      e.1.toList := by
    rw [List.takeWhile_append_of_pos hn, hc, List.takeWhile_cons_of_neg (by decide),
      List.append_nil]
  have htype : (e.1.toList ++ (": " ++ e.2.name ++ mark).toList).dropWhile Char.isAlphanum =
      (": " ++ e.2.name ++ mark).toList := by
    rw [List.dropWhile_append_of_pos hn, hc, List.dropWhile_cons_of_neg (by decide)]
  rw [entryLine, readEntry, ht]
  simp only [htype, hname, find?_type, Option.map_some, String.ofList_toList]

theorem readEntries_lines (hn : ∀ e ∈ es, ∀ c ∈ e.1.toList, c.isAlphanum)
    (rest : List (List Char)) :
    readEntries mark (es.map (entryLine mark) ++ ['\x7d'] :: rest) = es := by
  induction es with
  | nil => rfl
  | cons e es ih =>
    obtain ⟨he, hes⟩ := List.forall_mem_cons.mp hn
    rw [List.map_cons, List.cons_append, readEntries, readEntry_entryLine he, ih hes]

theorem SchemaType.name_chars (t : SchemaType) :
    ∀ c ∈ t.name.toList, c.isAlphanum ∨ c ∈ ['[', '!', ']'] := by
  intro c hc
  have h : t.name.toList.all (fun c => c.isAlphanum || decide (c ∈ ['[', '!', ']'])) = true := by
    cases t <;> rfl
  simpa using List.all_eq_true.mp h c hc

/-- A character that is part of no name, no type and no mark does not occur in a line. -/
theorem not_mem_entryLine (hn : ∀ c ∈ e.1.toList, c.isAlphanum) (ha : ¬ c.isAlphanum)
    (hp : c ∉ ['\t', ':', ' ', '[', '!', ']']) (hm : c ∉ mark.toList) : c ∉ entryLine mark e := by
  intro h
  rw [entryLine, Block.fieldText, String.toList_append, String.toList_append,
    String.toList_append] at h
  simp only [List.mem_cons, List.mem_append, not_or] at h hp
  rcases h with h | ((h | h) | h) | h
  · exact hp.1 h
  · exact ha (hn c h)
  · have hs : ": ".toList = [':', ' '] := rfl
    simp [hs, hp] at h
  · rcases e.2.name_chars c h with h | h
    · exact ha h
    · simp [hp] at h
  · exact hm h

theorem splitOn_entryLines (h : ∀ e ∈ es, '\n' ∉ entryLine mark e) (rest : List Char) :
    (entryLines mark es ++ rest).splitOn '\n' = es.map (entryLine mark) ++ rest.splitOn '\n' := by
  induction es with
  | nil => rfl
  | cons e es ih =>
    obtain ⟨he, hes⟩ := List.forall_mem_cons.mp h
    have hc : entryLines mark (e :: es) ++ rest =
        entryLine mark e ++ '\n' :: (entryLines mark es ++ rest) := by
      simp only [entryLines, List.flatMap_cons, List.append_assoc, List.cons_append,
        List.nil_append]
    rw [hc, List.splitOn_append_cons_self_of_not_mem he, ih hes, List.map_cons, List.cons_append]

theorem rtakeWhile_append_cons {xs ys : List Char} (h : c ∉ ys) :
    (xs ++ c :: ys).rtakeWhile (· != c) = ys := by
  have hy : ∀ d ∈ ys.reverse, (d != c) = true := by
    intro d hd
    rw [bne_iff_ne]
    rintro rfl
    exact h (List.mem_reverse.mp hd)
  rw [List.rtakeWhile, List.reverse_append, List.reverse_cons, List.append_assoc,
    List.takeWhile_append_of_pos hy, List.singleton_append, List.takeWhile_cons_of_neg (by simp),
    List.append_nil, List.reverse_reverse]

/-- A block, character by character, behind its opening brace. -/
def blockRest (mark : String) (es : List Entry) : List Char := entryLines mark es ++ ['\x7d', '\n']

theorem blockOf_toList (ms : List MappedField) (v : View) :
    (blockOf ms v).text.toList =
      (v.head ++ " \x7b\n").toList ++ blockRest v.mark (ms.map MappedField.entry) := by
  have hl : ∀ m : MappedField, (BlockLine.mk 1 (m.line v)).render.toList =
      entryLine v.mark m.entry ++ ['\n'] := by
    intro m
    simp only [BlockLine.render, String.toList_append, String.toList_ofList]
    rfl
  have hc : Block.closing.toList = ['\x7d', '\n'] := rfl
  simp only [Block.text, blockOf, Block.opening, String.toList_append, String.toList_join,
    List.map_map, List.flatMap_map, Function.comp_def, hl, hc, blockRest, entryLines,
    List.append_assoc]

section Read
variable (hn : ∀ e ∈ es, ∀ c ∈ e.1.toList, c.isAlphanum)
include hn

theorem readEntries_blockRest (hm : '\n' ∉ mark.toList) (rest : List Char) :
    readEntries mark ((blockRest mark es ++ rest).splitOn '\n') = es := by
  have hl : ∀ e ∈ es, '\n' ∉ entryLine mark e := fun e he =>
    not_mem_entryLine (hn e he) (by decide) (by decide) hm
  have hc : (['\x7d', '\n'] ++ rest).splitOn '\n' = ['\x7d'] :: rest.splitOn '\n' :=
    List.splitOn_append_cons_self_of_not_mem (show '\n' ∉ ['\x7d'] by decide) rest
  rw [blockRest, List.append_assoc, splitOn_entryLines hl, hc, readEntries_lines hn]

theorem brace_not_mem_blockRest (hm : '\x7b' ∉ mark.toList) : '\x7b' ∉ blockRest mark es := by
  intro h
  rcases List.mem_append.mp h with h | h
  · obtain ⟨e, he, h⟩ := List.mem_flatMap.mp h
    rcases List.mem_append.mp h with h | h
    · exact not_mem_entryLine (hn e he) (by decide) (by decide) hm h
    · exact absurd h (by decide)
  · exact absurd h (by decide)

end Read

theorem entry_chars (ms : List MappedField) :
    ∀ e ∈ ms.map MappedField.entry, ∀ c ∈ e.1.toList, c.isAlphanum := by
  intro e he c hc
  obtain ⟨m, -, rfl⟩ := List.mem_map.mp he
  exact Name.isAlphanum_of_mem_lowerCamel hc

theorem schemaText_toList (ms : List MappedField) (v w : View) :
    (schemaText ms [v, w]).toList =
      (blockOf ms v).text.toList ++ '\n' :: (blockOf ms w).text.toList := by
  have hs : blockSeparator.toList = ['\n'] := rfl
  simp only [schemaText, List.map_cons, List.map_nil, String.intercalate_cons_cons,
    String.intercalate_singleton, String.toList_append, hs, List.append_assoc, List.cons_append,
    List.nil_append]

variable {s : Subject} {tagKey : String}

theorem readOutput_schemaText (a b : String) (ms : List MappedField) :
    readOutput a (schemaText ms [.output a, .input b]) = ms.map MappedField.entry := by
  have hd : (schemaText ms [.output a, .input b]).toList.drop
      ((View.output a).head ++ " \x7b\n").length = blockRest (View.output a).mark
        (ms.map MappedField.entry) ++ '\n' :: (blockOf ms (.input b)).text.toList := by
    rw [schemaText_toList, blockOf_toList ms (.output a), List.append_assoc,
      ← String.length_toList, List.drop_left]
  have hm : '\n' ∉ "!".toList := by decide
  simp only [readOutput, hd]
  exact readEntries_blockRest (entry_chars ms) hm _

theorem readInput_schemaText (a b : String) (ms : List MappedField) :
    readInput (schemaText ms [.output a, .input b]) = ms.map MappedField.entry := by
  have hb : ((View.input b).head ++ " \x7b\n").toList =
      ((View.input b).head ++ " ").toList ++ ['\x7b', '\n'] := by
    rw [String.toList_append, String.toList_append, List.append_assoc]
    rfl
  have ht : (schemaText ms [.output a, .input b]).toList =
      ((blockOf ms (.output a)).text.toList ++ '\n' :: ((View.input b).head ++ " ").toList) ++
        '\x7b' :: '\n' :: blockRest "" (ms.map MappedField.entry) := by
    rw [schemaText_toList, blockOf_toList ms (.input b), hb]
    simp only [List.append_assoc, List.cons_append, List.nil_append]
    rfl
  have hc : '\x7b' ∉ '\n' :: blockRest "" (ms.map MappedField.entry) :=
    List.not_mem_cons_of_ne_of_not_mem (by decide)
      (brace_not_mem_blockRest (entry_chars ms) (by decide))
  have hr : readEntries "" ((blockRest "" (ms.map MappedField.entry) ++ []).splitOn '\n') =
      ms.map MappedField.entry := readEntries_blockRest (entry_chars ms) (by decide) []
  rw [List.append_nil] at hr
  rw [readInput, ht, rtakeWhile_append_cons hc]
  exact hr

/-- The names and the types that a record shows, one of each for every field. -/
structure Subject.HasTable (s : Subject) (tagKey : String) (es : List Entry) : Prop where
  mapped : (s.mapped tagKey).result.map (fun p => p.1.map MappedField.entry) = .ok es
  length : s.record?.map (·.fields.length) = some es.length

theorem hasTable_of_mapped {ms : List MappedField} {ns : List Notice}
    (h : (s.mapped tagKey).result = .ok (ms, ns)) :
    s.HasTable tagKey (ms.map MappedField.entry) := by
  refine ⟨by rw [h]; rfl, ?_⟩
  obtain ⟨c, _, ds, hc, -, hd, -, -, rfl, -⟩ := mapped_eq_ok_iff.mp h
  rw [hc, Option.map_some, hd.length_eq, List.length_map, List.length_map]

theorem schema_eq_ok {views : List View} {t : Schema}
    (h : (s.schema tagKey views).result = .ok t) :
    ∃ ms ns, (s.mapped tagKey).result = .ok (ms, ns) ∧ t.text = schemaText ms views := by
  rw [schema_result] at h
  cases hm : (s.mapped tagKey).result with
  | error e => rw [hm] at h; cases h
  | ok p =>
    rw [hm] at h
    cases h
    exact ⟨p.1, p.2, rfl, rfl⟩

/-- From the text of a schema the field table is read off its output block as well as off its input
block, so records whose schemas have the same text have the same field table. -/
theorem schema_determines_table {a b : String} {t : Schema}
    (h : (s.schema tagKey [.output a, .input b]).result = .ok t) :
    s.HasTable tagKey (readOutput a t.text) ∧ s.HasTable tagKey (readInput t.text) ∧
      ∀ (s' : Subject) (tagKey' : String) (t' : Schema),
        (s'.schema tagKey' [.output a, .input b]).result = .ok t' → t'.text = t.text →
          ∃ es, s.HasTable tagKey es ∧ s'.HasTable tagKey' es := by
  have hread : ∀ (s : Subject) tagKey t, (s.schema tagKey [.output a, .input b]).result = .ok t →
      s.HasTable tagKey (readOutput a t.text) ∧ s.HasTable tagKey (readInput t.text) := by
    intro s tagKey t h
    obtain ⟨ms, ns, hm, ht⟩ := schema_eq_ok h
    have hs := hasTable_of_mapped hm
    rw [ht, readOutput_schemaText, readInput_schemaText]
    exact ⟨hs, hs⟩
  obtain ⟨ho, hi⟩ := hread s tagKey t h
  refine ⟨ho, hi, fun s' tagKey' t' h' he => ⟨_, ho, ?_⟩⟩
  rw [← he]
  exact (hread s' tagKey' t' h').1

/-- Names that look like parts of blocks. -/
def crookedViews : List View := [.output "A \x7b\n\tx: Int!\n\x7d", .input "\n\ty: Int\n\x7b"]

def gaugeElsewhere : Subject :=
  .instance ⟨gauge, [("hosts", texts []), ("level", .int 3), ("floor", .bool true),
    ("so_mark", .int (-2147483649))]⟩

theorem gauge_table :
    ∃ t t', (gaugeAtEnds.schema defaultTagKey crookedViews).result = .ok t ∧
      (gaugeElsewhere.schema defaultTagKey crookedViews).result = .ok t' ∧ t'.text = t.text ∧
      gaugeAtEnds.HasTable defaultTagKey (readOutput "A \x7b\n\tx: Int!\n\x7d" t.text) ∧
      gaugeAtEnds.HasTable defaultTagKey (readInput t.text) ∧
      ∃ es, gaugeAtEnds.HasTable defaultTagKey es ∧ gaugeElsewhere.HasTable defaultTagKey es := by
  have hok : ∀ s : Subject, (s.schema defaultTagKey crookedViews).result.toOption.isSome →
      ∃ t, (s.schema defaultTagKey crookedViews).result = .ok t := by
    intro s hs
    cases hr : (s.schema defaultTagKey crookedViews).result with
    | error e => rw [hr] at hs; cases hs
    | ok t => exact ⟨t, rfl⟩
  obtain ⟨t, ht⟩ := hok gaugeAtEnds (by decide +kernel)
  obtain ⟨t', ht'⟩ := hok gaugeElsewhere (by decide +kernel)
  have he : t'.text = t.text := by
    have hs : (gaugeElsewhere.schema defaultTagKey crookedViews).result.toOption.map (·.text) =
        (gaugeAtEnds.schema defaultTagKey crookedViews).result.toOption.map (·.text) := by
      decide +kernel
    rw [ht, ht'] at hs
    exact Option.some.inj hs
  obtain ⟨ho, hi, hd⟩ := schema_determines_table ht
  exact ⟨t, t', ht, ht', he, ho, hi, hd gaugeElsewhere defaultTagKey t' ht' he⟩

example : readInput ("type A \x7b\n\tx: Int!\n\x7d\n\n" ++
    "input \x7b \x7b\n\tids: [String!]\n\t: Int\n\x7d\n") =
      [("ids", .stringList), ("", .int)] := by
  decide +kernel

end RecordSchema
