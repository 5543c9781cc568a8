import Mathlib.Data.List.Nodup
import RecordSchema.Log.Record
import RecordSchema.Proofs.Named
import RecordSchema.Record.Instance
import RecordSchema.Record.Module

/-! # Field tables

A field table names each field once, by the name that the field has itself. The classes that a
module makes have such tables, however their fields are inherited, taken over and declared again:
what a class statement makes of tables like that is one, and so is all that a module makes.
-/
namespace RecordSchema

structure IsFieldTable (t : Named Field) : Prop where
  nodup : (t.map Prod.fst).Nodup
  name_eq : ∀ e ∈ t, e.1 = e.2.name

/-- All tables of a lineage are field tables. -/
def HasFieldTables (lineage : List Layer) : Prop :=
  ∀ l ∈ lineage, ∀ t, l.table = some t → IsFieldTable t

namespace IsFieldTable
variable {t : Named Field}

theorem empty : IsFieldTable [] := ⟨List.nodup_nil, fun _ h => nomatch h⟩

theorem put (h : IsFieldTable t) (f : Field) : IsFieldTable (Named.put t f.name f) := by
  refine ⟨?_, fun e he => ?_⟩
  · rw [Named.put_keys]
    split
    · exact h.nodup
    next hn => exact List.nodup_append'.mpr ⟨h.nodup, by simp, by simpa using hn⟩
  · rcases Named.eq_or_mem_of_mem_put he with rfl | he
    · rfl
    · exact h.name_eq e he

theorem putAll (h : IsFieldTable t) {more : Named Field} (hm : ∀ e ∈ more, e.1 = e.2.name) :
    IsFieldTable (Named.putAll t more) := by
  induction more generalizing t with
  | nil => exact h
  | cons e more ih =>
    obtain ⟨he, hm⟩ := List.forall_mem_cons.mp hm
    have hp : IsFieldTable (Named.put t e.1 e.2) := by
      rw [he]
      exact h.put e.2
    exact ih hp hm

theorem inherited {ancestors : List Layer} (h : HasFieldTables ancestors) :
    IsFieldTable (inheritedTable ancestors) := by
  have hr : HasFieldTables ancestors.reverse := fun l hl => h l (List.mem_reverse.mp hl)
  -- the table grows from the farthest ancestor on and stays a field table
  have hf : ∀ (ls : List Layer) (t : Named Field), HasFieldTables ls → IsFieldTable t →
      IsFieldTable (ls.foldl (fun t l => Named.putAll t (l.table.getD [])) t) := by
    intro ls
    induction ls with
    | nil => exact fun t _ ht => ht
    | cons l ls ih =>
      intro t hl ht
      obtain ⟨hl, hls⟩ := List.forall_mem_cons.mp hl
      refine ih _ hls (ht.putAll ?_)
      cases hlt : l.table with
      | none => exact fun e he => nomatch he
      | some u => exact (hl u hlt).name_eq
  exact hf _ _ hr .empty

end IsFieldTable

theorem layer_hasFieldTable {s : ClassStatement} {module : String} {bases : List ClassName}
    {ancestors : List Layer} {l : Layer} (h : HasFieldTables ancestors)
    (hl : s.layer module bases ancestors = .ok l) {t : Named Field} (ht : l.table = some t) :
    IsFieldTable t := by
  unfold ClassStatement.layer at hl
  split at hl
  · obtain ⟨fs, -, hl⟩ := bind_eq_ok_iff.mp hl
    obtain ⟨as, -, hl⟩ := bind_eq_ok_iff.mp hl
    cases hl
    cases ht
    refine (IsFieldTable.inherited h).putAll fun e he => ?_
    obtain ⟨f, -, rfl⟩ := List.mem_map.mp he
    rfl
  · cases hl
    obtain ⟨l, hl, hlt⟩ := List.exists_of_findSome?_eq_some ht
    exact h l hl t hlt

theorem nextAncestor?_mem {lines : List (List Layer)} {l : Layer}
    (h : nextAncestor? lines = some l) : ∃ line ∈ lines, l ∈ line := by
  obtain ⟨line, hline, hl⟩ := List.mem_filterMap.mp (List.mem_of_find?_eq_some h)
  exact ⟨line, hline, List.mem_of_mem_head? hl⟩

theorem mem_of_mem_weave {n : Nat} {lines : List (List Layer)} {ls : List Layer}
    (h : weave n lines = .ok ls) {l : Layer} (hl : l ∈ ls) : ∃ line ∈ lines, l ∈ line := by
  induction n generalizing lines ls with
  | zero =>
    rw [weave] at h
    split at h
    · cases h; cases hl
    · cases h
  | succ n ih =>
    rw [weave] at h
    split at h
    · cases h; cases hl
    · split at h
      · cases h
      next m hm =>
        generalize hw : weave n _ = w at h
        cases w with
        | error e => cases h
        | ok ms =>
          cases h
          rcases List.mem_cons.mp hl with rfl | hl
          · exact nextAncestor?_mem hm
          · obtain ⟨line', hline', hl⟩ := ih hw hl
            obtain ⟨line, hline, rfl⟩ := List.mem_map.mp hline'
            refine ⟨line, hline, ?_⟩
            cases line with
            | nil => cases hl
            | cons k rest =>
              dsimp only at hl
              split at hl
              · exact List.mem_cons_of_mem k hl
              · exact hl

/-- The classes that a statement is read among have field tables throughout their lineages. -/
def AllHaveFieldTables (known : Named RecordClass) : Prop :=
  ∀ e ∈ known, HasFieldTables e.2.lineage

theorem findBases_mem {known : Named RecordClass} {names : List String} {bases : List RecordClass}
    (h : findBases known names = .ok bases) : ∀ b ∈ bases, ∃ e ∈ known, e.2 = b := by
  induction names generalizing bases with
  | nil => cases h; exact fun b hb => nomatch hb
  | cons n names ih =>
    rw [findBases] at h
    split at h
    next c hc =>
      generalize hr : findBases known names = r at h
      cases r with
      | error e => cases h
      | ok rest =>
        cases h
        obtain ⟨front, back, rfl, -⟩ := List.lookup_eq_some_iff.mp hc
        exact List.forall_mem_cons.mpr ⟨⟨(n, c), by simp, rfl⟩, ih hr⟩
    · cases h

theorem ancestorsOf_hasFieldTables {bases : List RecordClass} {ancestors : List Layer}
    (hb : ∀ b ∈ bases, HasFieldTables b.lineage) (h : ancestorsOf bases = .ok ancestors) :
    HasFieldTables ancestors := by
  intro l hl
  unfold ancestorsOf at h
  dsimp only at h
  split at h
  next ls hw =>
    cases h
    obtain ⟨line, hline, hl⟩ := mem_of_mem_weave hw hl
    rcases List.mem_append.mp hline with hline | hline
    · obtain ⟨b, hbm, rfl⟩ := List.mem_map.mp hline
      exact hb b hbm l hl
    · rw [List.mem_singleton.mp hline] at hl
      obtain ⟨b, hbm, rfl⟩ := List.mem_map.mp hl
      exact hb b hbm b.own List.mem_cons_self
  · cases h

theorem define_hasFieldTables {s : ClassStatement} {module : String} {known : Named RecordClass}
    {c : RecordClass} (hk : AllHaveFieldTables known) (h : s.define module known = .ok c) :
    HasFieldTables c.lineage := by
  unfold ClassStatement.define at h
  split at h
  · cases h
  · obtain ⟨bases, hb, h⟩ := bind_eq_ok_iff.mp h
    obtain ⟨ancestors, ha, h⟩ := bind_eq_ok_iff.mp h
    obtain ⟨l, hl, h⟩ := bind_eq_ok_iff.mp h
    split at h
    · cases h
      have hbt : ∀ b ∈ bases, HasFieldTables b.lineage := by
        intro b hbm
        obtain ⟨e, he, rfl⟩ := findBases_mem hb b hbm
        exact hk e he
      have hat := ancestorsOf_hasFieldTables hbt ha
      exact List.forall_mem_cons.mpr ⟨fun t => layer_hasFieldTable hat hl, hat⟩
    · cases h

theorem defineAll_haveFieldTables {module : String} {ss : List ClassStatement}
    {known classes : Named RecordClass} (hk : AllHaveFieldTables known)
    (h : defineAll module known ss = .ok classes) : AllHaveFieldTables classes := by
  induction ss generalizing known with
  | nil => cases h; exact hk
  | cons s ss ih =>
    obtain ⟨c, hc, h⟩ := bind_eq_ok_iff.mp h
    refine ih (fun e he => ?_) h
    rcases Named.eq_or_mem_of_mem_put he with rfl | he
    · exact define_hasFieldTables hk hc
    · exact hk e he

theorem defineModule_hasFieldTables {module : String} {ss : List ClassStatement}
    {classes : Named RecordClass} (h : defineModule module ss = .ok classes)
    {e : String × RecordClass} (he : e ∈ classes) : HasFieldTables e.2.lineage := by
  obtain ⟨made, hm, h⟩ := bind_eq_ok_iff.mp h
  cases h
  obtain ⟨d, hd, rfl⟩ := List.mem_map.mp he
  exact defineAll_haveFieldTables (fun _ h => absurd h List.not_mem_nil) hm d hd

theorem declared_isFieldTable {ds : List Declaration} (hn : (ds.map (·.name)).Nodup) :
    IsFieldTable (ds.map fun d => (d.name, d.field)) := by
  refine ⟨?_, fun e he => ?_⟩
  · rw [List.map_map]
    exact hn
  · obtain ⟨d, -, rfl⟩ := List.mem_map.mp he
    rfl

theorem bundledRecord_hasFieldTables : HasFieldTables bundledRecord.lineage := by
  intro l hl t ht
  cases List.mem_singleton.mp hl
  cases ht
  exact declared_isFieldTable (by decide)

section Fields
variable {c : RecordClass}

/-- All that the field table of a class keeps: fields, and variables that are none. -/
def RecordClass.entries (c : RecordClass) : List Field := (c.table?.getD []).map (·.2)

theorem entries_nodup (h : HasFieldTables c.lineage) : (c.entries.map (·.name)).Nodup := by
  rw [RecordClass.entries, List.map_map]
  cases ht : c.table? with
  | none => exact List.nodup_nil
  | some t =>
    have hf := h c.own List.mem_cons_self t ht
    have hn : t.map ((·.name) ∘ (·.2)) = t.map Prod.fst :=
      List.map_congr_left fun e he => (hf.name_eq e he).symm
    exact hn ▸ hf.nodup

theorem fields_nodup (h : HasFieldTables c.lineage) : (c.fields.map (·.name)).Nodup :=
  (entries_nodup h).sublist (List.filter_sublist.map _)

theorem mem_entries_of_mem_fields {f : Field} (h : f ∈ c.fields) : f ∈ c.entries :=
  List.mem_of_mem_filter h

theorem mem_entries_of_mem_parameters {f : Field} (h : f ∈ c.parameters) : f ∈ c.entries :=
  List.mem_of_mem_filter h

end Fields

end RecordSchema
