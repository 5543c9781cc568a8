import RecordSchema.Proofs.Record.Walk
import RecordSchema.Schema.Mapping

/-! # Whole numbers that the schema cannot hold

A whole-number field is written as text if its number lies outside 32 bits, and only then is there
a notice about it. A field of that kind without a number stops the mapping, and so does one whose
number is too long for the notice.
-/
namespace RecordSchema
variable {d : Descriptor}

namespace Descriptor

/-- The number of a whole-number field, if it lies outside the range of 32 bits with a sign. -/
def overflow? (d : Descriptor) : Option Int :=
  if d.kind = .int then d.value.toInt?.filter fun n => decide (n < -2147483648 ∨ 2147483647 < n)
  else none

/-- The schema type that the field is written with. -/
def writtenType (d : Descriptor) : SchemaType :=
  if d.overflow?.isSome then .string else .ofKind d.kind

/-- The notice about a number out of range: the field, its native type and the number. -/
def remark? (d : Descriptor) : Option Notice :=
  d.overflow?.map fun n =>
    ⟨.warning, d.name ++ " (" ++ d.nativeType ++ "): value " ++ toString n ++
      " exceeds GraphQL Int32 range, using String type instead"⟩

/-- A whole-number field holds what stands for a whole number. -/
def Widens (d : Descriptor) : Prop := d.kind = .int → d.value.toInt?.isSome

/-- The number of a whole-number field is not too long to be written. -/
def Short (d : Descriptor) : Prop :=
  d.kind = .int → ∀ n, d.value.toInt? = some n → Text.isTooLong n = false

def mapped (d : Descriptor) : MappedField := ⟨d, d.writtenType, d.remark?⟩

end Descriptor

theorem fitsInt_eq_false_iff (n : Int) :
    fitsInt n = false ↔ n < -2147483648 ∨ 2147483647 < n := by
  rw [fitsInt, Bool.and_eq_false_iff, decide_eq_false_iff_not, decide_eq_false_iff_not, leastInt,
    greatestInt]
  omega

/-- A number that is too long lies far outside the range. -/
theorem fitsInt_of_long {n : Int} (h : Text.isTooLong n = true) : fitsInt n = false := by
  have hp : ∀ k, 10 ≤ k → 10 ^ 10 ≤ Nat.pow 10 k := fun k hk =>
    Nat.pow_le_pow_right (by decide) hk
  rw [Text.isTooLong_iff] at h
  unfold Text.leastLong at h
  have hn : 10 ^ 10 ≤ n.natAbs := Nat.le_trans (hp Text.digitLimit (by decide)) h
  rw [fitsInt_eq_false_iff]
  omega

theorem Descriptor.overflow?_of_fits {n : Int} (hk : d.kind = .int)
    (hv : d.value.toInt? = some n) (hn : fitsInt n = true) : d.overflow? = none := by
  have hr : ¬ (n < -2147483648 ∨ 2147483647 < n) := by
    rw [← fitsInt_eq_false_iff, hn]
    decide
  rw [overflow?, if_pos hk, hv]
  simpa using hr

theorem Descriptor.overflow?_of_not_fits {n : Int} (hk : d.kind = .int)
    (hv : d.value.toInt? = some n) (hn : fitsInt n = false) : d.overflow? = some n := by
  have hr := (fitsInt_eq_false_iff n).mp hn
  rw [overflow?, if_pos hk, hv]
  simpa using hr

theorem Descriptor.mapped_of_ne_int (hk : d.kind ≠ .int) :
    d.mapped = ⟨d, .ofKind d.kind, none⟩ := by
  have ho : d.overflow? = none := if_neg hk
  rw [mapped, writtenType, remark?, ho]
  rfl

/-- The number of a field is looked at before its type is chosen. -/
theorem mapField_of_int (hk : d.kind = .int) :
    (mapField d).result = d.widen >>= fun n =>
      if fitsInt n then .ok ⟨d, .int, none⟩
      else (SchemaError.written (Text.whole n)).map fun digits =>
        ⟨d, .string, some (overflowNotice d digits)⟩ := by
  unfold mapField
  rw [hk]
  simp only [Logged.result_bind, Logged.result_of]
  congr 1
  funext n
  cases fitsInt n with
  | true => rfl
  | false => cases Text.whole n <;> rfl

theorem mapField_of_ne_int (hk : d.kind ≠ .int) : (mapField d).result = .ok d.mapped := by
  unfold mapField
  rw [Descriptor.mapped_of_ne_int hk]
  cases hd : d.kind with
  | int => exact absurd hd hk
  | string => rfl
  | boolean => rfl
  | duration => rfl
  | stringList => rfl

theorem mapField_of_widens (h : d.Widens) (hs : d.Short) : (mapField d).result = .ok d.mapped := by
  by_cases hk : d.kind = .int
  · obtain ⟨n, hn⟩ := Option.isSome_iff_exists.mp (h hk)
    rw [mapField_of_int hk, Descriptor.widen, hn]
    simp only [ok_bind, Descriptor.mapped, Descriptor.writtenType, Descriptor.remark?]
    cases hf : fitsInt n with
    | true => rw [Descriptor.overflow?_of_fits hk hn hf, hk]; rfl
    | false =>
      rw [Descriptor.overflow?_of_not_fits hk hn hf, Text.whole_of_short (hs hk n hn)]
      rfl
  · exact mapField_of_ne_int hk

theorem mapField_of_not_widens (hk : d.kind = .int) (hv : d.value.toInt? = none) :
    (mapField d).result = .error (.notAnInteger d.name d.value.className d.nativeType) := by
  rw [mapField_of_int hk, Descriptor.widen, hv]
  rfl

theorem mapField_of_long {n : Int} (hk : d.kind = .int) (hv : d.value.toInt? = some n)
    (hn : Text.isTooLong n = true) :
    (mapField d).result = .error (.unwritten .tooManyDigits) := by
  rw [mapField_of_int hk, Descriptor.widen, hv]
  simp only [ok_bind, fitsInt_of_long hn, Text.whole_of_long hn]
  rfl

theorem mapField_eq_ok_iff {m : MappedField} :
    (mapField d).result = .ok m ↔ d.Widens ∧ d.Short ∧ m = d.mapped := by
  constructor
  · intro h
    have hw : d.Widens := by
      intro hk
      cases hv : d.value.toInt? with
      | none => rw [mapField_of_not_widens hk hv] at h; cases h
      | some n => rfl
    have hs : d.Short := by
      intro hk n hv
      cases hn : Text.isTooLong n with
      | true => rw [mapField_of_long hk hv hn] at h; cases h
      | false => rfl
    rw [mapField_of_widens hw hs] at h
    cases h
    exact ⟨hw, hs, rfl⟩
  · rintro ⟨hw, hs, rfl⟩
    exact mapField_of_widens hw hs

theorem mapField_eq_error_iff {e : SchemaError} :
    (mapField d).result = .error e ↔ d.kind = .int ∧
      ((d.value.toInt? = none ∧ e = .notAnInteger d.name d.value.className d.nativeType) ∨
        ∃ n, d.value.toInt? = some n ∧ Text.isTooLong n = true ∧
          e = .unwritten .tooManyDigits) := by
  constructor
  · intro h
    by_cases hk : d.kind = .int
    · refine ⟨hk, ?_⟩
      cases hv : d.value.toInt? with
      | none =>
        rw [mapField_of_not_widens hk hv] at h
        cases h
        exact .inl ⟨rfl, rfl⟩
      | some n =>
        cases hn : Text.isTooLong n with
        | true =>
          rw [mapField_of_long hk hv hn] at h
          cases h
          exact .inr ⟨n, rfl, hn, rfl⟩
        | false =>
          have hs : d.Short := by
            intro _ m hm
            cases hv.symm.trans hm
            exact hn
          rw [mapField_of_widens (fun _ => by simp [hv]) hs] at h
          cases h
    · cases (mapField_of_ne_int hk).symm.trans h
  · rintro ⟨hk, ⟨hv, rfl⟩ | ⟨n, hv, hn, rfl⟩⟩
    · exact mapField_of_not_widens hk hv
    · exact mapField_of_long hk hv hn

end RecordSchema
