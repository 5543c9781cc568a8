import RecordSchema.Log.Setup
import RecordSchema.Proofs.Terminal.Plain

/-! # Lines of the log

Both layouts can be filled from every record, so a record that the level lets through always leaves
a line. The line is painted, whatever the record says.
-/
namespace RecordSchema.Log
variable {level : Int} {r : Record}

/-- The two directives of the layout take the level and the message as they are. -/
theorem lineText_ordinary (r : Record) :
    lineText ordinaryTemplate [] r = .ok ("[" ++ levelName r.level ++ "] " ++ r.message) := by
  have h : lineText ordinaryTemplate [] r = .ok (String.ofList ('[' ::
      ((List.replicate (0 - (levelName r.level).toList.length) ' ' ++ (levelName r.level).toList) ++
        (']' :: ' ' :: ((List.replicate (0 - r.message.toList.length) ' ' ++ r.message.toList) ++
          []))))) := rfl
  rw [h, Except.ok.injEq, ← String.toList_inj]
  simp [String.toList_append]

theorem lineText_detailed (r : Record) :
    lineText detailedTemplate [] r =
      .ok ("[" ++ levelName r.level ++ "] " ++ placeMark ++ " " ++ r.message) := by
  have h : lineText detailedTemplate [] r = .ok (String.ofList ('[' ::
      ((List.replicate (0 - (levelName r.level).toList.length) ' ' ++ (levelName r.level).toList) ++
        (("] " ++ placeMark ++ " ").toList ++
          ((List.replicate (0 - r.message.toList.length) ' ' ++ r.message.toList) ++ []))))) := rfl
  rw [h, Except.ok.injEq, ← String.toList_inj]
  simp [String.toList_append]

/-- A record that is shown leaves one painted line. -/
theorem output_of_shown (h : (Setup.atLevel level).shows r.level = true) :
    ∃ text, (Setup.atLevel level).output r = (paintOf r.level).apply text ++ "\n" := by
  have hl : ∃ text, lineText (Setup.atLevel level).template [] r = .ok text := by
    rw [Setup.atLevel, templateFor]
    split_ifs
    · exact ⟨_, lineText_ordinary r⟩
    · exact ⟨_, lineText_detailed r⟩
  obtain ⟨text, ht⟩ := hl
  refine ⟨text, ?_⟩
  rw [Setup.output, if_pos h, line, ht]
  rfl

theorem output_of_hidden (h : (Setup.atLevel level).shows r.level = false) :
    (Setup.atLevel level).output r = "" := by
  rw [Setup.output, h]
  rfl

theorem output_ne_empty_iff :
    (Setup.atLevel level).output r ≠ "" ↔ (Setup.atLevel level).shows r.level = true := by
  cases h : (Setup.atLevel level).shows r.level with
  | true =>
    obtain ⟨text, ht⟩ := output_of_shown h
    rw [ht]
    simp
  | false => simp [output_of_hidden h]

/-- Warnings are shown at their own level and at all lower ones. -/
theorem shows_warning_iff : (Setup.atLevel level).shows warning = true ↔ level ≤ warning := by
  have hp : 0 < warning := by decide
  rw [Setup.shows, Bool.and_eq_true, decide_eq_true_eq, decide_eq_true_eq, Setup.atLevel]
  exact and_iff_right hp

/-! ## Paint -/

/-- Every level has a paint, which begins with a control sequence whatever follows it. -/
theorem opening_sequence (level : Int) (rest : List Char) :
    ∃ tail, (paintOf level).opening = Terminal.escape :: tail ∧
      (Terminal.sequenceTail? (tail ++ rest)).isSome := by
  unfold paintOf
  split_ifs <;> exact ⟨_, rfl, rfl⟩

theorem holdsSequence_painted (level : Int) (text s : String) :
    Terminal.HoldsSequence ((paintOf level).apply text ++ s) := by
  let p := paintOf level
  let rest := Terminal.paintLines p.opening p.closing
    (Terminal.sparePieces p.opening p.closing (Terminal.reopen p text.toList) 0) ++ p.closing
  obtain ⟨tail, ho, ht⟩ := opening_sequence level (rest ++ s.toList)
  refine ⟨[], tail ++ (rest ++ s.toList), ?_, ht⟩
  have hc : p.chars text.toList = p.opening ++ rest := List.append_assoc ..
  rw [String.toList_append, Terminal.Paint.apply, String.toList_ofList, hc, ho]
  simp

/-- A record that is shown puts a control sequence on the error stream, whatever follows it. -/
theorem holdsSequence_output (h : (Setup.atLevel level).shows r.level = true) (s : String) :
    Terminal.HoldsSequence ((Setup.atLevel level).output r ++ s) := by
  obtain ⟨text, ht⟩ := output_of_shown h
  rw [ht, String.append_assoc]
  exact holdsSequence_painted r.level text ("\n" ++ s)

end RecordSchema.Log
