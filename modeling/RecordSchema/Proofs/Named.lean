import Mathlib.Data.List.Basic
import RecordSchema.Named

/-! # Entries under names

What putting an entry does to the names, to the entries and to what is found under a name.
-/
namespace RecordSchema.Named
variable {α : Type}

theorem lookup_cons (e : String × α) (rest : Named α) (n : String) :
    List.lookup n (e :: rest) = if n = e.1 then some e.2 else rest.lookup n := by
  rw [List.lookup_cons]
  by_cases h : n = e.1
  · rw [if_pos h, beq_iff_eq.mpr h]
  · rw [if_neg h, beq_false_of_ne h]

theorem lookup_put (entries : Named α) (name : String) (a : α) (n : String) :
    (entries.put name a).lookup n = if n = name then some a else entries.lookup n := by
  induction entries with
  | nil => exact lookup_cons (name, a) [] n
  | cons e rest ih =>
    rw [put, lookup_cons e]
    by_cases he : e.1 = name
    · rw [if_pos he, lookup_cons, he]
      by_cases h : n = name <;> simp [h]
    · rw [if_neg he, lookup_cons, ih]
      by_cases h : n = name
      · simp [h, Ne.symm he]
      · simp [h]

/-- Of entries that are put one after the other, the last one under a name is found. -/
theorem lookup_putAll (entries more : Named α) (n : String) :
    (entries.putAll more).lookup n = (more.reverse.lookup n).or (entries.lookup n) := by
  induction more generalizing entries with
  | nil => rfl
  | cons e more ih =>
    have hp : entries.putAll (e :: more) = (entries.put e.1 e.2).putAll more := rfl
    rw [hp, ih, lookup_put, List.reverse_cons, List.lookup_append, Option.or_assoc, lookup_cons]
    by_cases h : n = e.1 <;> simp [h]

theorem put_keys (t : Named α) (name : String) (a : α) :
    (t.put name a).map Prod.fst =
      if name ∈ t.map Prod.fst then t.map Prod.fst else t.map Prod.fst ++ [name] := by
  induction t with
  | nil => rfl
  | cons e t ih =>
    by_cases h : e.1 = name
    · simp [put, h]
    · have h' : name ≠ e.1 := Ne.symm h
      simp only [put, if_neg h, List.map_cons, ih, List.mem_cons, h', false_or]
      split <;> rfl

theorem eq_or_mem_of_mem_put {t : Named α} {name : String} {a : α}
    {e : String × α} (h : e ∈ t.put name a) : e = (name, a) ∨ e ∈ t := by
  induction t with
  | nil => exact .inl (List.mem_singleton.mp h)
  | cons d t ih =>
    rw [put] at h
    split at h
    · rcases List.mem_cons.mp h with h | h
      · exact .inl h
      · exact .inr (List.mem_cons_of_mem d h)
    · rcases List.mem_cons.mp h with h | h
      · exact .inr (h ▸ List.mem_cons_self)
      · exact (ih h).imp_right (List.mem_cons_of_mem d)

end RecordSchema.Named
