import Mathlib.Algebra.GroupWithZero.Nat
import Mathlib.Algebra.Order.Group.Nat
import Mathlib.Data.List.Chain
import Mathlib.Data.List.DropRight
import Mathlib.Order.Bounds.Basic
import Mathlib.Tactic.SplitIfs
import RecordSchema.FieldTable
import RecordSchema.Proofs.Terminal.Cutting

/-! # Columns of the field table

Every column begins at the same place in all lines, two blanks behind the one before it. Cutting a
line at these places gives its cells back, up to the blanks that fill them, and the line of the
headings tells where the places are. What decides is that the last cell of a line is never blank, so
dropping the blanks at the end of a line takes nothing but its filling.
-/
namespace RecordSchema.FieldTable
open Column (all)
variable {rows rows' : List FieldRow} {r : FieldRow} {c : Column} {cell : Column → String}
  {width width' : Column → Nat} {cs ds last last' : List Char}

/-- A text without the blanks that may fill it. -/
def unfilled (cs : List Char) : List Char := cs.rdropWhile (· == ' ')

/-- A text with which a line can end: there is something in it, and its end is neither blank nor the
end of a remark. -/
def EndsLine (s : String) : Prop :=
  ∃ cs c, s.toList = cs ++ [c] ∧ Text.isBlank c = false ∧ c ≠ ')'

/-- A text that is neither empty nor filled from the left. -/
def Begins (cs : List Char) : Prop := ∃ c rest, cs = c :: rest ∧ c ≠ ' '

/-! ## Filled texts -/

theorem rdropWhile_append_of_pos {p : Char → Bool} (h : ∀ c ∈ ds, p c = true) :
    (cs ++ ds).rdropWhile p = cs.rdropWhile p := by
  have hr : ∀ c ∈ ds.reverse, p c = true := fun c hc => h c (List.mem_reverse.mp hc)
  rw [List.rdropWhile, List.reverse_append, List.dropWhile_append_of_pos hr, List.rdropWhile]

theorem unfilled_padEnd (n : Nat) (cs : List Char) :
    unfilled (Text.padEnd n cs) = unfilled cs := by
  refine rdropWhile_append_of_pos fun c hc => ?_
  rw [(List.mem_replicate.mp hc).2, beq_self_eq_true]

theorem length_padEnd {n : Nat} (h : cs.length ≤ n) : (Text.padEnd n cs).length = n := by
  rw [Text.padEnd, List.length_append, List.length_replicate]
  omega

theorem padEnd_gap (n : Nat) (cs : List Char) :
    Text.padEnd n cs ++ gap = cs ++ List.replicate (n - cs.length + gap.length) ' ' := by
  rw [Text.padEnd, List.append_assoc, List.replicate_add]
  rfl

/-- What is dropped at the end of a filled text is the filling. -/
theorem stripEnd_padEnd {s : String} (h : EndsLine s) (cs : List Char) (n : Nat) :
    Text.stripEnd (cs ++ Text.padEnd n s.toList) = cs ++ s.toList := by
  obtain ⟨ds, c, hs, hc, -⟩ := h
  have hf : ∀ b ∈ List.replicate (n - s.toList.length) ' ', Text.isBlank b = true := by
    intro b hb
    rw [(List.mem_replicate.mp hb).2]
    decide
  have hd : Text.stripEnd (cs ++ (s.toList ++ List.replicate (n - s.toList.length) ' ')) =
      (cs ++ s.toList).rdropWhile Text.isBlank := by
    rw [← List.append_assoc]
    exact rdropWhile_append_of_pos hf
  rw [Text.padEnd, hd, hs, ← List.append_assoc]
  exact List.rdropWhile_concat_neg _ _ _ (by simp [hc])

/-- Blanks end where the first other character stands. -/
theorem replicate_append_inj {m n : Nat} (hl : Begins last) (hl' : Begins last')
    (h : List.replicate m ' ' ++ last = List.replicate n ' ' ++ last') : m = n ∧ last = last' := by
  obtain ⟨c, rest, rfl, hc⟩ := hl
  obtain ⟨c', rest', rfl, hc'⟩ := hl'
  induction m generalizing n with
  | zero =>
    cases n with
    | zero => exact ⟨rfl, h⟩
    | succ n => exact absurd (List.cons.inj h).1 hc
  | succ m ih =>
    cases n with
    | zero => exact absurd (List.cons.inj h).1.symm hc'
    | succ n =>
      obtain ⟨hmn, hr⟩ := ih (List.cons.inj h).2
      exact ⟨congrArg Nat.succ hmn, hr⟩

/-! ## Widths -/

theorem isGreatest_foldl_max (ns : List Nat) (a : Nat) :
    IsGreatest {n | n = a ∨ n ∈ ns} (ns.foldl max a) := by
  induction ns generalizing a with
  | nil => simp [IsGreatest, upperBounds]
  | cons m ns ih =>
    obtain ⟨hmem, hle⟩ := ih (max a m)
    rw [List.foldl_cons]
    constructor
    · rcases hmem with h | h
      · rw [h]
        rcases max_choice a m with hm | hm <;> simp [hm]
      · exact .inr (List.mem_cons_of_mem m h)
    · have ha := hle (.inl rfl)
      rintro n (rfl | hn)
      · omega
      · rcases List.mem_cons.mp hn with rfl | hn
        · omega
        · exact hle (.inr hn)

theorem isGreatest_width (rows : List FieldRow) (c : Column) :
    IsGreatest {n | n = c.heading.length ∨ ∃ r ∈ rows, n = (c.cell r).length} (c.width rows) := by
  have h := isGreatest_foldl_max (rows.map fun r => (c.cell r).length) c.heading.length
  have hs : {n | n = c.heading.length ∨ n ∈ rows.map fun r => (c.cell r).length} =
      {n | n = c.heading.length ∨ ∃ r ∈ rows, n = (c.cell r).length} := by
    simp only [List.mem_map, eq_comm]
  rwa [hs] at h

theorem length_heading_le (rows : List FieldRow) (c : Column) :
    c.heading.length ≤ c.width rows := (isGreatest_width rows c).2 (.inl rfl)

theorem length_cell_le (h : r ∈ rows) (c : Column) : (c.cell r).length ≤ c.width rows :=
  (isGreatest_width rows c).2 (.inr ⟨r, h, rfl⟩)

/-! ## Lines -/

/-- Some columns with the gaps behind them, each filled up to its width. -/
def filled (width : Column → Nat) (cell : Column → String) (columns : List Column) : List Char :=
  columns.flatMap fun c => Text.padEnd (width c) (cell c).toList ++ gap

/-- How much room some columns with the gaps behind them take. -/
def room (width : Column → Nat) (columns : List Column) : Nat :=
  (columns.map fun c => width c + gap.length).sum

def Column.before (c : Column) : List Column := all.takeWhile (· ≠ c)

def Column.offset (rows : List FieldRow) (c : Column) : Nat := room (Column.width rows) c.before

def slice (start width : Nat) (line : List Char) : List Char := (line.drop start).take width

theorem isChain_offset (rows : List FieldRow) :
    all.IsChain fun b c => c.offset rows = b.offset rows + b.width rows + gap.length := by
  have hs : ∀ b c : Column, c.before = b.before ++ [b] →
      c.offset rows = b.offset rows + b.width rows + gap.length := by
    intro b c h
    simp only [Column.offset, room, h, List.map_append, List.sum_append, List.map_singleton,
      List.sum_singleton, Nat.add_assoc]
  simp only [all, List.isChain_cons_cons, List.isChain_singleton, and_true]
  exact ⟨hs _ _ rfl, hs _ _ rfl, hs _ _ rfl, hs _ _ rfl⟩

theorem length_filled (h : ∀ c, (cell c).length ≤ width c) (columns : List Column) :
    (filled width cell columns).length = room width columns := by
  induction columns with
  | nil => rfl
  | cons c columns ih =>
    have hc : (Text.padEnd (width c) (cell c).toList).length = width c := length_padEnd (h c)
    simp only [filled, room, List.flatMap_cons, List.map_cons, List.sum_cons,
      List.length_append] at ih ⊢
    omega

theorem intercalate_filled (f : Column → List Char) (columns : List Column) (c : Column) :
    gap.intercalate ((columns ++ [c]).map f) = (columns.flatMap fun b => f b ++ gap) ++ f c := by
  induction columns with
  | nil => simp
  | cons b columns ih =>
    have hn : (columns ++ [c]).map f ≠ [] := by simp
    obtain ⟨d, ds, hd⟩ := List.exists_cons_of_ne_nil hn
    rw [hd] at ih
    rw [List.cons_append, List.map_cons, hd, List.intercalate_cons_cons, ih, List.flatMap_cons]
    simp only [List.append_assoc]

/-- A line is its first columns, filled up, and what stands in the last. -/
theorem toList_lineOf (h : EndsLine (cell .type)) (rows : List FieldRow) :
    (lineOf rows cell).toList =
      filled (Column.width rows) cell Column.type.before ++ (cell .type).toList := by
  rw [lineOf, String.toList_ofList, ← stripEnd_padEnd h _ (Column.type.width rows)]
  congr 1
  exact intercalate_filled _ Column.type.before .type

theorem not_mem_lineOf {a : Char} (ha : a ≠ ' ') (h : ∀ c, a ∉ (cell c).toList)
    (rows : List FieldRow) : a ∉ (lineOf rows cell).toList := by
  have hg : a ∉ gap := by simp [gap, ha]
  have hc : a ∉ gap.intercalate (all.map fun c => Text.padEnd (c.width rows) (cell c).toList) := by
    refine Terminal.not_mem_intercalate hg fun cs hcs => ?_
    obtain ⟨c, -, rfl⟩ := List.mem_map.mp hcs
    exact Text.not_mem_padEnd ha (h c) _
  rw [lineOf, String.toList_ofList, Text.stripEnd, List.mem_reverse]
  exact fun hm => hc (List.mem_reverse.mp ((List.dropWhile_sublist _).subset hm))

theorem not_mem_lines {a : Char} (ha : a ≠ ' ') (hh : ∀ c : Column, a ∉ c.heading.toList)
    (hr : a ∉ remark.toList) (h : ∀ r ∈ rows, ∀ c : Column, a ∉ (c.cell r).toList) :
    ∀ line ∈ lines rows, a ∉ line.toList := by
  refine List.forall_mem_cons.mpr ⟨not_mem_lineOf ha hh rows, fun line hl => ?_⟩
  obtain ⟨r, hm, rfl⟩ := List.mem_map.mp hl
  have hline : a ∉ (lineOf rows fun c => c.cell r).toList := not_mem_lineOf ha (h r hm) rows
  rw [rowLine, String.toList_append, List.mem_append, not_or]
  refine ⟨hline, ?_⟩
  split_ifs
  · exact hr
  · exact List.not_mem_nil

theorem drop_lineOf (hw : ∀ c, (cell c).length ≤ c.width rows) (h : EndsLine (cell .type)) :
    (lineOf rows cell).toList.drop (Column.type.offset rows) = (cell .type).toList := by
  rw [toList_lineOf h, Column.offset, ← length_filled hw, List.drop_left]

/-- Every column of a line holds its cell, and the blanks that fill it except in the last. -/
theorem unfilled_slice (hw : ∀ c, (cell c).length ≤ c.width rows) (h : EndsLine (cell .type))
    (c : Column) :
    unfilled (slice (c.offset rows) (c.width rows) (lineOf rows cell).toList) =
      unfilled (cell c).toList := by
  -- behind the columns in front of it, a column takes its width of what is left
  have hcut : ∀ rest, Column.type.before = c.before ++ c :: rest →
      slice (c.offset rows) (c.width rows) (lineOf rows cell).toList =
        Text.padEnd (c.width rows) (cell c).toList := by
    intro rest hf
    have hl : (lineOf rows cell).toList = filled (Column.width rows) cell c.before ++
        (Text.padEnd (c.width rows) (cell c).toList ++
          (gap ++ filled (Column.width rows) cell rest ++ (cell .type).toList)) := by
      rw [toList_lineOf h, hf]
      simp only [filled, List.flatMap_append, List.flatMap_cons, List.append_assoc]
    rw [slice, hl, Column.offset, ← length_filled hw, List.drop_left,
      List.take_left' (length_padEnd (hw c))]
  have hpad := unfilled_padEnd (c.width rows) (cell c).toList
  cases c with
  | name => rw [hcut [.tag, .externalName, .kind] rfl, hpad]
  | tag => rw [hcut [.externalName, .kind] rfl, hpad]
  | externalName => rw [hcut [.kind] rfl, hpad]
  | kind => rw [hcut [] rfl, hpad]
  | type =>
    have hlen : (cell .type).toList.length ≤ Column.type.width rows := hw .type
    rw [slice, drop_lineOf hw h, List.take_of_length_le hlen]

/-! ## Headings -/

theorem begins_append (h : Begins cs) (ds : List Char) : Begins (cs ++ ds) := by
  obtain ⟨c, rest, rfl, hc⟩ := h
  exact ⟨c, rest ++ ds, rfl, hc⟩

theorem begins_filled (h : ∀ c, Begins (cell c).toList) (hl : Begins last) (width : Column → Nat)
    (columns : List Column) : Begins (filled width cell columns ++ last) := by
  cases columns with
  | nil => exact hl
  | cons c columns =>
    rw [filled, List.flatMap_cons, padEnd_gap, List.append_assoc, List.append_assoc]
    exact begins_append (h c) _

/-- Where no cell begins with a blank, the widths of the columns can be told from the line. -/
theorem width_eq_of_filled (h : ∀ c, Begins (cell c).toList) (hl : Begins last)
    (hw : ∀ c, (cell c).length ≤ width c) (hw' : ∀ c, (cell c).length ≤ width' c)
    {columns : List Column}
    (he : filled width cell columns ++ last = filled width' cell columns ++ last) :
    ∀ c ∈ columns, width c = width' c := by
  induction columns with
  | nil => simp
  | cons c columns ih =>
    simp only [filled, List.flatMap_cons, padEnd_gap, List.append_assoc,
      List.append_right_inj] at he
    obtain ⟨hn, hr⟩ := replicate_append_inj (begins_filled h hl width columns)
      (begins_filled h hl width' columns) (by simpa only [filled, padEnd_gap] using he)
    have hc : (cell c).toList.length ≤ width c := hw c
    have hc' : (cell c).toList.length ≤ width' c := hw' c
    exact List.forall_mem_cons.mpr ⟨by omega, ih hr⟩

theorem begins_heading (c : Column) : Begins c.heading.toList := by
  cases c <;> exact ⟨_, _, rfl, by decide⟩

theorem endsLine_heading : EndsLine (Column.heading .type) :=
  ⟨"GRAPHQL_TYP".toList, 'E', rfl, by decide, by decide⟩

/-- Tables with the same line of headings have their columns at the same places. -/
theorem same_columns (h : lineOf rows Column.heading = lineOf rows' Column.heading) :
    (∀ c : Column, c ≠ .type → c.width rows = c.width rows') ∧
      ∀ c : Column, c.offset rows = c.offset rows' := by
  have hl := congrArg String.toList h
  rw [toList_lineOf endsLine_heading, toList_lineOf endsLine_heading] at hl
  have hw : ∀ c ∈ Column.type.before, c.width rows = c.width rows' :=
    width_eq_of_filled begins_heading (begins_heading .type) (length_heading_le rows)
      (length_heading_le rows') hl
  have hm : ∀ c, c ≠ .type → c ∈ Column.type.before := by
    intro c hc
    cases c with
    | type => exact absurd rfl hc
    | name | tag | externalName | kind => decide
  refine ⟨fun c hc => hw c (hm c hc), fun c => ?_⟩
  have hs : ∀ b ∈ c.before, b ∈ Column.type.before := by cases c <;> decide
  rw [Column.offset, Column.offset, room, room]
  congr 1
  exact List.map_congr_left fun b hb => by rw [hw b (hs b hb)]

end RecordSchema.FieldTable
