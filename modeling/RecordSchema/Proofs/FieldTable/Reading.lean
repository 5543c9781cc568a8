import RecordSchema.Proofs.FieldTable.Columns
import RecordSchema.Proofs.Traversal

/-! # Reading the field table

The text of the table is a line of headings and a line for every row. The remark stands at the end
of just those lines whose field takes text in place of a whole number, and without it every line has
its cells at the places of the columns. So tables that look alike have the same rows, up to blanks
at the end of a cell.
-/
namespace RecordSchema.FieldTable
variable {rows rows' : List FieldRow} {r r' : FieldRow} {cell : Column → String}

/-- A line without the remark, if one stands at its end. -/
def bare (line : List Char) : List Char :=
  if remark.toList <:+ line then line.take (line.length - remark.length) else line

/-- A line in which the columns, each from its place on and in its width, hold some cells, and which
ends with the remark or not. -/
structure Shows (offset width : Column → Nat) (cell : Column → String) (marked : Bool)
    (line : String) : Prop where
  marked_iff : remark.toList <:+ line.toList ↔ marked = true
  cells : ∀ c, unfilled (slice (offset c) (width c) (bare line.toList)) = unfilled (cell c).toList

/-- Rows that look alike: they have the same cells, up to blanks at the end, and the same remark. -/
structure Resembles (r r' : FieldRow) : Prop where
  cells : ∀ c : Column, unfilled (c.cell r).toList = unfilled (c.cell r').toList
  fallback : r.fallback = r'.fallback

theorem not_remark_suffix {s : String} (h : EndsLine s) (cs : List Char) :
    ¬ remark.toList <:+ cs ++ s.toList := by
  obtain ⟨ds, c, hs, -, hc⟩ := h
  rintro ⟨front, hf⟩
  have hl := congrArg List.getLast? hf
  have hr : remark.toList = "  (Int overflow".toList ++ [')'] := rfl
  rw [hs, hr, ← List.append_assoc, ← List.append_assoc, List.getLast?_concat,
    List.getLast?_concat] at hl
  exact hc (Option.some.inj hl).symm

theorem lineOf_not_remark (h : EndsLine (cell .type)) (rows : List FieldRow) :
    ¬ remark.toList <:+ (lineOf rows cell).toList := by
  rw [toList_lineOf h]
  exact not_remark_suffix h _

theorem remark_suffix_iff (h : EndsLine r.type) (rows : List FieldRow) :
    remark.toList <:+ (rowLine rows r).toList ↔ r.fallback = true := by
  rw [rowLine, String.toList_append]
  cases r.fallback with
  | true => exact iff_of_true (List.suffix_append _ _) rfl
  | false =>
    have hn : ¬ remark.toList <:+ (lineOf rows (Column.cell r)).toList := lineOf_not_remark h rows
    simpa using hn

/-- The remark is all that is taken from the line of a row. -/
theorem bare_rowLine (h : EndsLine r.type) (rows : List FieldRow) :
    bare (rowLine rows r).toList = (lineOf rows (Column.cell r)).toList := by
  have hs := remark_suffix_iff h rows
  cases hf : r.fallback with
  | true =>
    have hl : (rowLine rows r).toList =
        (lineOf rows (Column.cell r)).toList ++ remark.toList := by
      rw [rowLine, hf, if_pos rfl, String.toList_append]
    have hn : (rowLine rows r).toList.length - remark.length =
        (lineOf rows (Column.cell r)).toList.length := by
      rw [hl, List.length_append]
      exact Nat.add_sub_cancel _ _
    rw [bare, if_pos (hs.mpr hf), hn, hl, List.take_left]
  | false =>
    rw [bare, if_neg (by simp [hs, hf]), rowLine, hf, if_neg (by decide), String.append_empty]

theorem shows_heading (rows : List FieldRow) :
    Shows (Column.offset rows) (Column.width rows) Column.heading false
      (lineOf rows Column.heading) := by
  have hn := lineOf_not_remark endsLine_heading rows
  refine ⟨iff_of_false hn (by decide), fun c => ?_⟩
  rw [bare, if_neg hn]
  exact unfilled_slice (length_heading_le rows) endsLine_heading c

theorem shows_rowLine (hr : r ∈ rows) (h : EndsLine r.type) :
    Shows (Column.offset rows) (Column.width rows) (Column.cell r) r.fallback
      (rowLine rows r) := by
  refine ⟨remark_suffix_iff h rows, fun c => ?_⟩
  rw [bare_rowLine h]
  exact unfilled_slice (length_cell_le hr) h c

/-- Rows with the same line in tables with the same headings look alike. -/
theorem resembles_of_rowLine_eq (hh : lineOf rows Column.heading = lineOf rows' Column.heading)
    (hr : r ∈ rows) (hr' : r' ∈ rows') (h : EndsLine r.type) (h' : EndsLine r'.type)
    (hl : rowLine rows r = rowLine rows' r') : Resembles r r' := by
  obtain ⟨hwidth, hoffset⟩ := same_columns hh
  have hb : (lineOf rows (Column.cell r)).toList = (lineOf rows' (Column.cell r')).toList := by
    rw [← bare_rowLine h rows, hl, bare_rowLine h' rows']
  constructor
  · intro c
    by_cases hc : c = .type
    · subst hc
      have hd := drop_lineOf (length_cell_le hr) h
      rw [hb, hoffset, drop_lineOf (length_cell_le hr') h'] at hd
      exact congrArg unfilled hd.symm
    · rw [← unfilled_slice (length_cell_le hr) h c, hb, hwidth c hc, hoffset c]
      exact unfilled_slice (length_cell_le hr') h' c
  · rw [Bool.eq_iff_iff, ← remark_suffix_iff h rows, hl, remark_suffix_iff h' rows']

/-! ## Rows of mapped fields -/

theorem endsLine_type (m : MappedField) : EndsLine m.row.type := by
  show EndsLine m.type.name
  cases m.type with
  | int => exact ⟨['I', 'n'], 't', rfl, by decide, by decide⟩
  | string => exact ⟨"Strin".toList, 'g', rfl, by decide, by decide⟩
  | boolean => exact ⟨"Boolea".toList, 'n', rfl, by decide, by decide⟩
  | duration => exact ⟨"Duratio".toList, 'n', rfl, by decide, by decide⟩
  | stringList => exact ⟨"[String!".toList, ']', rfl, by decide, by decide⟩

theorem newline_not_mem_lines {rows : List FieldRow}
    (h : ∀ r ∈ rows, ∀ c : Column, '\n' ∉ (c.cell r).toList) :
    ∀ line ∈ lines rows, '\n' ∉ line.toList := by
  have hh : ∀ c : Column, '\n' ∉ c.heading.toList := by
    intro c
    cases c <;> decide
  exact not_mem_lines (by decide) hh (by decide) h

/-- The table has a line of headings and a line for every row, in order. From places on that are the
same in all lines, every line has its cells, and the remark stands behind those of the rows that it
is about. Tables that are the same have as many rows, and these look alike one by one. -/
theorem table_read_back (ms : List MappedField) :
    let rows := ms.map MappedField.row
    (∀ c : Column, IsGreatest {n | n = c.heading.length ∨ ∃ r ∈ rows, n = (c.cell r).length}
      (c.width rows)) ∧
    (∃ offset : Column → Nat, offset .name = 0 ∧
      (Column.all.IsChain fun b c => offset c = offset b + b.width rows + 2) ∧
      ∃ header texts, lines rows = header :: texts ∧
        Shows offset (Column.width rows) Column.heading false header ∧
        List.Forall₂
          (fun r line => Shows offset (Column.width rows) (Column.cell r) r.fallback line)
          rows texts) ∧
    ((∀ r ∈ rows, ∀ c : Column, '\n' ∉ (c.cell r).toList) →
      ∀ line ∈ lines rows, '\n' ∉ line.toList) ∧
    ∀ ms' : List MappedField, lines rows = lines (ms'.map MappedField.row) →
      List.Forall₂ Resembles rows (ms'.map MappedField.row) := by
  intro rows
  have hends : ∀ ms : List MappedField, ∀ r ∈ ms.map MappedField.row, EndsLine r.type := by
    intro ms r hr
    obtain ⟨m, -, rfl⟩ := List.mem_map.mp hr
    exact endsLine_type m
  refine ⟨isGreatest_width rows, ⟨Column.offset rows, rfl, isChain_offset rows, _, _, rfl,
    shows_heading rows, ?_⟩, newline_not_mem_lines, fun ms' h => ?_⟩
  · rw [List.forall₂_map_right_iff, List.forall₂_same]
    exact fun r hr => shows_rowLine hr (hends ms r hr)
  · obtain ⟨hh, hl⟩ := List.cons.inj h
    rw [← List.forall₂_eq_eq_eq, List.forall₂_map_left_iff, List.forall₂_map_right_iff] at hl
    exact forall₂_imp_mem hl fun r hr r' hr' =>
      resembles_of_rowLine_eq hh hr hr' (hends ms r hr) (hends ms' r' hr')

/-- Two fields, of which the first is too large for the schema and has a tag of our choice. -/
def soundings (tag : String) : List MappedField :=
  let depth : Descriptor := ⟨"depth", tag, .int, .int 5000000000, "Int64"⟩
  [⟨depth, .string, some (overflowNotice depth "5000000000")⟩,
    ⟨⟨"temperature", "temperature", .int, .int 3, "Int64"⟩, .int, none⟩]

/-- A blank at the end of a tag does not show. -/
theorem soundings_read_back :
    let rows := (soundings "depth").map MappedField.row
    let rows' := (soundings "depth ").map MappedField.row
    (∀ r ∈ rows, ∀ c : Column, '\n' ∉ (c.cell r).toList) ∧
    (∀ line ∈ lines rows, '\n' ∉ line.toList) ∧ rows ≠ rows' ∧ lines rows = lines rows' ∧
    List.Forall₂ Resembles rows rows' := by
  intro rows rows'
  obtain ⟨-, -, hn, hr⟩ := table_read_back (soundings "depth")
  have hc : ∀ r ∈ rows, ∀ c ∈ Column.all, '\n' ∉ (c.cell r).toList := by decide +kernel
  have hcells : ∀ r ∈ rows, ∀ c : Column, '\n' ∉ (c.cell r).toList :=
    fun r hr c => hc r hr c (Column.mem_all c)
  have hl : lines rows = lines rows' := by decide +kernel
  exact ⟨hcells, hn hcells, by decide +kernel, hl, hr (soundings "depth ") hl⟩

end RecordSchema.FieldTable
