import RecordSchema.Proofs.Text.Cut
import RecordSchema.Schema.Build

/-! # What is written into a block

A block is written line by line and can be built at any time. Building closes the text and not the
block, so every text that is built goes on, up to its closing brace, in the texts that are built
later; and as long as no line is broken, the lines are read back from it.
-/
namespace RecordSchema

namespace Block
open Text (splitAtChar)

/-- What is done with a block: a line or a field is written into it, or its text is built. -/
inductive Step where
  | line (depth : Int) (text : String)
  | field (name type mark : String)
  | build
deriving DecidableEq, Repr

/-- A step changes the block or yields its text. -/
def step (b : Block) : Step → Block × Option String
  | .line depth text => (b.add depth text, none)
  | .field name type mark => (b.addField name type mark, none)
  | .build => (b, some b.text)

/-- The block after some steps, and the texts that were built on the way. -/
def run (b : Block) : List Step → Block × List String
  | [] => (b, [])
  | s :: steps => ((run (b.step s).1 steps).1, (b.step s).2.toList ++ (run (b.step s).1 steps).2)

/-- The line that a step writes; the line of a field stands one level below the head. -/
def Step.written? : Step → Option BlockLine
  | line depth text => some ⟨depth, text⟩
  | field name type mark => some ⟨1, name ++ ": " ++ type ++ mark⟩
  | build => none

def written (steps : List Step) : List BlockLine := steps.filterMap Step.written?

/-- A line behind as many tabs as it is deep, and behind none if it is less than zero deep. -/
def indented (l : BlockLine) : String :=
  String.ofList (List.replicate (max l.depth 0).toNat '\t') ++ l.text

def ended (lines : List BlockLine) : String :=
  String.join (lines.map fun l => indented l ++ "\n")

/-- A head and lines, without the closing brace. -/
def opened (head : String) (lines : List BlockLine) : String := head ++ " \x7b\n" ++ ended lines

variable {b : Block} {head t : String} {lines more : List BlockLine} {s : Step}
  {steps before after : List Step}

theorem render_eq (l : BlockLine) : l.render = indented l ++ "\n" := by
  have hd : (max l.depth 0).toNat = l.depth.toNat := by omega
  rw [BlockLine.render, indented, hd]

theorem text_eq (b : Block) : b.text = opened b.head b.lines ++ "\x7d\n" := by
  rw [text, opening, closing, opened, ended, List.map_congr_left fun l _ => render_eq l]

theorem opened_append (head : String) (lines more : List BlockLine) :
    opened head (lines ++ more) = opened head lines ++ ended more := by
  rw [opened, opened, ended, List.map_append, String.join_append, ← ended, ← ended]
  simp only [String.append_assoc]

theorem step_fst (b : Block) (s : Step) :
    (b.step s).1 = { b with lines := b.lines ++ s.written?.toList } := by
  cases s with
  | build => simp [step, Step.written?]
  | _ => rfl

theorem step_snd_eq_some_iff : (b.step s).2 = some t ↔ s = .build ∧ t = b.text := by
  cases s <;> simp [step, eq_comm]

theorem written_cons (s : Step) (steps : List Step) :
    written (s :: steps) = s.written?.toList ++ written steps := by
  cases s <;> rfl

/-- The lines of a block are those that were written into it. -/
theorem run_fst (b : Block) (steps : List Step) :
    (b.run steps).1 = { b with lines := b.lines ++ written steps } := by
  induction steps generalizing b with
  | nil => simp [run, written]
  | cons s steps ih => rw [run, ih, step_fst, written_cons, List.append_assoc]

theorem run_append (b : Block) (before after : List Step) :
    (b.run (before ++ after)).2 = (b.run before).2 ++ ((b.run before).1.run after).2 := by
  induction before generalizing b with
  | nil => rfl
  | cons s before ih => rw [List.cons_append, run, run, ih, List.append_assoc]

theorem length_texts (b : Block) (steps : List Step) :
    (b.run steps).2.length = steps.count .build := by
  induction steps generalizing b with
  | nil => rfl
  | cons s steps ih =>
    rw [run, List.length_append, ih, List.count_cons, Nat.add_comm]
    cases s <;> rfl

/-- A text that is built is the text of the block at that time. -/
theorem exists_build_of_mem_texts (h : t ∈ (b.run steps).2) :
    ∃ before after, steps = before ++ .build :: after ∧ t = (b.run before).1.text := by
  induction steps generalizing b with
  | nil => cases h
  | cons s steps ih =>
    rcases List.mem_append.mp h with h | h
    · obtain ⟨rfl, rfl⟩ := step_snd_eq_some_iff.mp (Option.mem_toList.mp h)
      exact ⟨[], steps, rfl, rfl⟩
    · obtain ⟨before, after, rfl, rfl⟩ := ih h
      exact ⟨s :: before, after, rfl, rfl⟩

/-- Without its closing brace, a text is the front part of those that are built later. -/
theorem texts_pairwise (b : Block) (steps : List Step) :
    (b.run steps).2.Pairwise fun t u =>
      ∃ front rest, t = front ++ "\x7d\n" ∧ u = front ++ rest := by
  induction steps generalizing b with
  | nil => exact .nil
  | cons s steps ih =>
    refine List.pairwise_append.mpr ⟨?_, ih _, fun t ht u hu => ?_⟩
    · cases (b.step s).2 <;> simp
    · obtain ⟨-, rfl⟩ := step_snd_eq_some_iff.mp (Option.mem_toList.mp ht)
      obtain ⟨before, -, -, rfl⟩ := exists_build_of_mem_texts hu
      refine ⟨opened b.head b.lines, ended (s.written?.toList ++ written before) ++ "\x7d\n",
        text_eq b, ?_⟩
      rw [run_fst, step_fst, text_eq, List.append_assoc, opened_append, String.append_assoc]

/-- The lines of a block, the first of them with the head and the last with the closing brace. -/
def rows (head : String) (lines : List BlockLine) : List String :=
  (head ++ " \x7b") :: lines.map indented ++ ["\x7d"]

theorem opened_eq_join (head : String) (lines : List BlockLine) :
    opened head lines ++ "\x7d\n" =
      String.join ((rows head lines).map fun row => row ++ String.singleton '\n') := by
  have hs : String.singleton '\n' = "\n" := rfl
  have hb : " \x7b\n" = " \x7b" ++ "\n" := rfl
  have hc : "\x7d\n" = "\x7d" ++ "\n" := rfl
  simp only [rows, opened, ended, hs, hb, hc, List.cons_append, List.map_cons, List.map_append,
    List.map_map, List.map_nil, String.join_cons, String.join_append, String.join_nil,
    String.append_assoc, String.append_empty, Function.comp_def]

section Unbroken
variable (hh : '\n' ∉ head.toList) (hl : ∀ l ∈ lines, '\n' ∉ l.text.toList)
include hh hl

theorem newline_not_mem_rows : ∀ row ∈ rows head lines, '\n' ∉ row.toList := by
  intro row hr
  rw [rows, List.mem_append, List.mem_cons, List.mem_map, List.mem_singleton] at hr
  rcases hr with (rfl | ⟨l, hm, rfl⟩) | rfl
  · simp [hh]
  · simp [indented, hl l hm]
  · decide

theorem splitAtChar_text :
    splitAtChar '\n' (opened head lines ++ "\x7d\n") = rows head lines ++ [""] := by
  rw [opened_eq_join]
  exact Text.splitAtChar_lines (newline_not_mem_rows hh hl)

end Unbroken

/-- A build shows the head and all that was written before it, whatever was built before. -/
theorem run_build (head : String) (before after : List Step) :
    ∃ later, (run { head } (before ++ .build :: after)).2 =
        (run { head } before).2 ++ (opened head (written before) ++ "\x7d\n") :: later ∧
      (run { head } (before ++ after)).2 = (run { head } before).2 ++ later := by
  have ht : (run { head } before).1.text = opened head (written before) ++ "\x7d\n" := by
    rw [run_fst, text_eq, List.nil_append]
  refine ⟨_, ?_, run_append _ before after⟩
  rw [run_append, ← ht]
  rfl

/-- Every build gives the head, the lines written so far with their tabs and the closing brace. To
leave out a build changes nothing but that its own text is missing, and without its brace each text
is the front part of all later ones. Where no line is broken, cutting a text at its line feeds
gives two lines more than were written, with what was written in between. -/
theorem block_only_grows (head : String) (steps : List Step) :
    (run { head } steps).2.length = steps.count .build ∧
    ((run { head } steps).2.Pairwise fun t u =>
      ∃ front rest, t = front ++ "\x7d\n" ∧ u = front ++ rest) ∧
    ∀ before after, steps = before ++ .build :: after → ∃ text later,
      text = head ++ " \x7b\n" ++
        String.join ((written before).map fun l => indented l ++ "\n") ++ "\x7d\n" ∧
      (run { head } steps).2 = (run { head } before).2 ++ text :: later ∧
      (run { head } (before ++ after)).2 = (run { head } before).2 ++ later ∧
      ('\n' ∉ head.toList → (∀ l ∈ written before, '\n' ∉ l.text.toList) →
        ∃ lines, splitAtChar '\n' text = lines ++ [""] ∧
          lines.length = (written before).length + 2 ∧
          lines = (head ++ " \x7b") :: (written before).map indented ++ ["\x7d"]) := by
  refine ⟨length_texts _ steps, texts_pairwise _ steps, ?_⟩
  rintro before after rfl
  obtain ⟨later, hb, hl⟩ := run_build head before after
  refine ⟨_, later, rfl, hb, hl, fun hh hw => ⟨_, splitAtChar_text hh hw, ?_, rfl⟩⟩
  simp [rows]

/-- Fields, lines of any depth and builds in between. -/
def drafting : List Step :=
  [.build, .field "soMark" "Int" "!", .build, .build, .line (-2) "# deep", .line 2 "\t\x7d"]

theorem drafting_grows : ∃ text later,
    drafting.count .build = 3 ∧ '\n' ∉ "type Gauge".toList ∧
    (∀ l ∈ written drafting, '\n' ∉ l.text.toList) ∧
    (run { head := "type Gauge" } (drafting ++ [.build])).2.length = 4 ∧
    (run { head := "type Gauge" } (drafting ++ [.build])).2 =
      ["type Gauge \x7b\n\x7d\n", "type Gauge \x7b\n\tsoMark: Int!\n\x7d\n",
        "type Gauge \x7b\n\tsoMark: Int!\n\x7d\n"] ++ text :: later ∧
    splitAtChar '\n' text =
      ["type Gauge \x7b", "\tsoMark: Int!", "# deep", "\t\t\t\x7d", "\x7d", ""] := by
  have hh : '\n' ∉ "type Gauge".toList := by decide
  have hl : ∀ l ∈ written drafting, '\n' ∉ l.text.toList := by decide
  obtain ⟨hlength, -, hbuild⟩ := block_only_grows "type Gauge" (drafting ++ [.build])
  obtain ⟨text, later, -, hb, -, hread⟩ := hbuild drafting [] rfl
  obtain ⟨lines, hcut, -, rfl⟩ := hread hh hl
  have hbefore : (run { head := "type Gauge" } drafting).2 =
      ["type Gauge \x7b\n\x7d\n", "type Gauge \x7b\n\tsoMark: Int!\n\x7d\n",
        "type Gauge \x7b\n\tsoMark: Int!\n\x7d\n"] := by decide
  exact ⟨text, later, rfl, hh, hl, hlength, hbefore ▸ hb, hcut⟩

end Block

/-- The block of a view is what writing its fields one after the other gives. -/
theorem blockOf_eq_run (ms : List MappedField) (v : View) :
    blockOf ms v = (Block.run { head := v.head }
      (ms.map fun m => .field m.descriptor.externalName m.type.name v.mark)).1 := by
  have hw : Block.written (ms.map fun m =>
      .field m.descriptor.externalName m.type.name v.mark) = ms.map fun m => ⟨1, m.line v⟩ := by
    rw [Block.written, List.filterMap_map]
    exact congrFun List.filterMap_eq_map ms
  rw [Block.run_fst, hw]
  rfl

end RecordSchema
