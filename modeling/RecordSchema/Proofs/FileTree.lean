import Mathlib.Data.List.Basic
import RecordSchema.FileTree
import RecordSchema.Log.Record

/-! # What writing a file changes

Writing changes the content of one place. Every directory stays one, so that a path leads where it
led before, and what was written is read back under it.
-/
namespace RecordSchema.FileTree
variable {t t' : FileTree} {p : Path} {s : String} {place q : Place}

theorem lookup_cons_self (q : Place) (c : Content) (files : List (Place × Content)) :
    ((q, c) :: files).lookup q = some c := by
  rw [List.lookup_cons, beq_self_eq_true]

theorem lookup_cons_of_ne (h : q ≠ place) (c : Content) (files : List (Place × Content)) :
    ((place, c) :: files).lookup q = files.lookup q := by
  rw [List.lookup_cons, beq_false_of_ne h]

theorem lookup_replaced (files : List (Place × Content)) (place q : Place) (s : String) :
    (files.map fun f => if f.1 = place then (place, Content.text s) else f).lookup q =
      if q = place then (files.lookup q).map fun _ => .text s else files.lookup q := by
  induction files with
  | nil => simp
  | cons f files ih =>
    obtain ⟨key, c⟩ := f
    rw [List.map_cons]
    by_cases hk : key = place
    · subst hk
      rw [if_pos rfl]
      by_cases hq : q = key
      · subst hq
        simp only [lookup_cons_self, if_pos, Option.map_some]
      · rw [lookup_cons_of_ne hq, lookup_cons_of_ne hq, ih]
    · rw [if_neg hk]
      by_cases hq : q = key
      · subst hq
        rw [lookup_cons_self, lookup_cons_self, if_neg hk]
      · rw [lookup_cons_of_ne hq, lookup_cons_of_ne hq, ih]

/-- What a write leaves behind, place by place. -/
structure Written (t : FileTree) (place : Place) (s : String) (t' : FileTree) : Prop where
  work : t'.work = t.work
  here : t'.files.lookup place = some (.text s)
  elsewhere : ∀ q, q ≠ place → t'.files.lookup q = t.files.lookup q
  unlocked : t'.locked.contains place = false
  locked : ∀ q, q ≠ place → t'.locked.contains q = t.locked.contains q
  directories : ∀ q, t.isDirectoryAt q = true → t'.isDirectoryAt q = true

theorem nodeAt?_eq_directory_iff :
    t.nodeAt? q = some .directory ↔ t.files.lookup q = none ∧ t.isDirectoryAt q = true := by
  unfold nodeAt?
  cases t.files.lookup q with
  | none => simp
  | some c => cases hq : t.locked.contains q <;> simp

theorem nodeAt?_of_lookup {c : Content} (h : t.files.lookup q = some c) :
    t.nodeAt? q = some (if t.locked.contains q then .lockedFile else .file c) := by
  rw [nodeAt?, h]

/-- What a text can be written into: anything but a directory and a locked file. -/
def IsOpen (t : FileTree) (place : Place) : Prop :=
  t.nodeAt? place ≠ some .directory ∧ t.nodeAt? place ≠ some .lockedFile

instance (t : FileTree) (place : Place) : Decidable (t.IsOpen place) :=
  inferInstanceAs (Decidable (_ ∧ _))

theorem written_of_write (h : t.write p s = .ok t') :
    ∃ place, t.locate p = .ok place ∧ t.IsOpen place ∧ t.Written place s t' := by
  rw [write] at h
  obtain ⟨place, hp, h⟩ := bind_eq_ok_iff.mp h
  refine ⟨place, hp, ?_⟩
  rw [IsOpen]
  cases hl : t.files.lookup place with
  | some c =>
    have hn := nodeAt?_of_lookup hl
    cases hk : t.locked.contains place with
    | true =>
      rw [hn, hk] at h
      cases h
    | false =>
      rw [hk] at hn
      rw [hn] at h ⊢
      cases h
      refine ⟨by simp, rfl, ?_, fun q hq => ?_, hk, fun _ _ => rfl, fun q hq => ?_⟩
      · rw [lookup_replaced, if_pos rfl, hl]
        rfl
      · rw [lookup_replaced, if_neg hq]
      · -- a file that is replaced keeps its place, and directories are told by the places of files
        have hk : ∀ f : Place × Content,
            (if f.1 = place then (place, Content.text s) else f).1 = f.1 := by
          intro f
          split
          · rename_i hf
            exact hf.symm
          · rfl
        simp only [isDirectoryAt, List.any_map, Function.comp_def, hk] at hq ⊢
        exact hq
  | none =>
    cases hd : t.isDirectoryAt place with
    | true =>
      rw [nodeAt?_eq_directory_iff.mpr ⟨hl, hd⟩] at h
      cases h
    | false =>
      have hn : t.nodeAt? place = none := by rw [nodeAt?, hl, hd]; rfl
      rw [hn] at h ⊢
      cases h
      refine ⟨by simp, rfl, ?_, fun q hq => ?_, by simp, fun q hq => ?_, fun q hq => ?_⟩
      · rw [List.lookup_append, hl, lookup_cons_self]
        rfl
      · rw [List.lookup_append, lookup_cons_of_ne hq]
        exact Option.or_none
      · rw [Bool.eq_iff_iff]
        simp [hq]
      · simp only [isDirectoryAt, List.any_append, Bool.or_eq_true] at hq ⊢
        rcases hq with hq | hq
        · exact .inl hq
        · exact .inr (.inl hq)

/-- A path that leads somewhere leads to the same place after a write. -/
theorem Written.follow_eq (h : t.Written place s t') (hd : t.nodeAt? place ≠ some .directory)
    {parts : List String} {start : Place} (hf : t.follow start parts = .ok q) :
    t'.follow start parts = .ok q := by
  induction parts generalizing start with
  | nil => exact hf
  | cons part parts ih =>
    rw [follow] at hf ⊢
    cases hn : t.nodeAt? start with
    | none => rw [hn] at hf; cases hf
    | some node =>
      cases node with
      | file c => rw [hn] at hf; cases hf
      | lockedFile => rw [hn] at hf; cases hf
      | directory =>
        -- a walk goes on from directories only, and the written place is none
        have hne : start ≠ place := by
          rintro rfl
          exact hd hn
        obtain ⟨hl, hs⟩ := nodeAt?_eq_directory_iff.mp hn
        have hn' : t'.nodeAt? start = some .directory :=
          nodeAt?_eq_directory_iff.mpr ⟨(h.elsewhere start hne).trans hl, h.directories start hs⟩
        rw [hn] at hf
        rw [hn']
        simp only [h.locked start hne] at hf ⊢
        split_ifs at hf ⊢ with hk hu hlen
        · exact ih hf
        · exact ih hf

theorem Written.locate_eq (h : t.Written place s t') (hd : t.nodeAt? place ≠ some .directory)
    (hp : t.locate p = .ok q) : t'.locate p = .ok q := by
  unfold locate at hp ⊢
  rw [h.work]
  split_ifs at hp ⊢ with hlen
  all_goals exact h.follow_eq hd hp

/-- What was written under a path is read back under it. -/
theorem read_of_write (h : t.write p s = .ok t') : t'.read p = .ok (.text s) := by
  obtain ⟨place, hp, ⟨hd, -⟩, hw⟩ := written_of_write h
  have hn : t'.nodeAt? place = some (.file (.text s)) := by
    rw [nodeAt?_of_lookup hw.here, hw.unlocked]
    rfl
  rw [read, hw.locate_eq hd hp, ok_bind, hn]

/-- A text can be put under the path: it leads to a place that is neither a directory nor a locked
file. -/
def Writable (t : FileTree) (p : Path) : Prop :=
  ∃ place, t.locate p = .ok place ∧ t.IsOpen place

/-- Whether a text can be written does not depend on the text. -/
theorem exists_write_iff (s : String) : (∃ t', t.write p s = .ok t') ↔ t.Writable p := by
  constructor
  · rintro ⟨t', h⟩
    obtain ⟨place, hp, hd, -⟩ := written_of_write h
    exact ⟨place, hp, hd⟩
  · rintro ⟨place, hp, hd, hl⟩
    rw [write, hp, ok_bind]
    cases hn : t.nodeAt? place with
    | none => exact ⟨_, rfl⟩
    | some node =>
      cases node with
      | file c => exact ⟨_, rfl⟩
      | lockedFile => exact absurd hn hl
      | directory => exact absurd hn hd

end RecordSchema.FileTree
