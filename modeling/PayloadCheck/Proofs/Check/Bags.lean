import PayloadCheck.Check.Bags
import PayloadCheck.Proofs.Value.Path

/-!
# What the bags answer

The data and the files of a payload are maps, and a path into them meets a fault where it stumbles
in one of them (`dataValue_faults_iff`, `value_faults_iff`). The files are sought through only where
the data have nothing to show, so a path that stumbles in the files alone may still be answered.
-/

namespace PayloadCheck.Check

namespace Bags

variable {b : Bags} {path : String}

theorem dataValue_faults_iff :
    (∃ fault, b.dataValue path = .error fault) ↔ (bagValue b.data).Stumbles path :=
  Value.get_faults_iff

/-- A path stumbles in the data, or leads nowhere among them and stumbles in the files. -/
def Stumbles (b : Bags) (path : String) : Prop :=
  (bagValue b.data).Stumbles path ∨
    b.dataValue path = .ok .absent ∧ (bagValue b.files).Stumbles path

theorem value_eq_fileValue (h : b.dataValue path = .ok .absent) :
    b.value path = b.fileValue path := by
  unfold value
  rw [h]
  rfl

theorem value_eq_dataValue {v : Value} (h : b.dataValue path = .ok v) (hv : v ≠ .absent) :
    b.value path = .ok v := by
  unfold value
  rw [h]
  cases v with
  | absent => exact absurd rfl hv
  | _ => rfl

theorem value_faults_iff : (∃ fault, b.value path = .error fault) ↔ b.Stumbles path := by
  cases hdata : b.dataValue path with
  | error fault =>
    have hvalue : b.value path = .error fault := by
      unfold value
      rw [hdata]
      rfl
    exact iff_of_true ⟨fault, hvalue⟩ (Or.inl (dataValue_faults_iff.mp ⟨fault, hdata⟩))
  | ok v =>
    have hsteady : ¬ (bagValue b.data).Stumbles path := by
      rw [← dataValue_faults_iff, hdata]
      rintro ⟨fault, h⟩
      cases h
    rw [Stumbles, hdata, or_iff_right hsteady]
    by_cases hv : v = .absent
    · subst hv
      rw [value_eq_fileValue hdata, and_iff_right rfl]
      exact Value.get_faults_iff
    · rw [value_eq_dataValue hdata hv]
      simp [hv]

theorem isSubmitted_faults_iff :
    (∃ fault, b.isSubmitted path = .error fault) ↔ b.Stumbles path := by
  rw [← value_faults_iff]
  simp [isSubmitted, Fault.map_eq_error_iff]

end Bags

/-- **Lookups.** A path leads to a part of a value or nowhere, unless it comes to a list or a tuple
    with a segment that is written like a place and is none; that fault is one of the text's
    content. Lookups in the bags of a payload meet a fault just where they stumble so. -/
theorem lookup_faults_iff_stumbles (source : Value) (path : String) (b : Bags) (field : String) :
    (∀ v, source.get path = .ok v → v = .absent ∨ source.Part v) ∧
    ((∃ fault, source.get path = .error fault) ↔ source.Stumbles path) ∧
    (∀ fault, source.get path = .error fault → ∃ detail, fault = .badValue detail) ∧
    ((∃ fault, b.dataValue field = .error fault) ↔ (bagValue b.data).Stumbles field) ∧
    ((∃ fault, b.value field = .error fault) ↔ b.Stumbles field) ∧
    ((∃ fault, b.isSubmitted field = .error fault) ↔ b.Stumbles field) :=
  ⟨fun _ => Value.part_of_get, Value.get_faults_iff, fun _ => Value.get_fault,
    Bags.dataValue_faults_iff, Bags.value_faults_iff, Bags.isSubmitted_faults_iff⟩

/-- A place with two minus signs is a fault in a list, not an absent value. -/
theorem lookup_of_two_signs_faults :
    ((Value.list [.text "a"]).get "--1" = .error (Value.notAnInteger "--1")) ∧
    ¬ ∃ v, (Value.list [.text "a"]).get "--1" = .ok v := by
  have hget : (Value.list [.text "a"]).get "--1" = .error (Value.notAnInteger "--1") := by
    rfl
  refine ⟨hget, ?_⟩
  rintro ⟨v, h⟩
  rw [hget] at h
  cases h

end PayloadCheck.Check
