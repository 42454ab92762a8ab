import PayloadCheck.Proofs.Number.Numeral
import PayloadCheck.Proofs.Value.Equality
import PayloadCheck.Proofs.Value.Faults

/-!
# Loose equality

Loose equality looks at the kinds of both sides to choose what it compares: truth, numbers, texts or
the values themselves. The choice does not depend on the order of the sides, and neither does what
comes of it, a fault included (`looseEquals_comm`). Whole numbers and the texts that denote them are
loosely equal iff they are the same number (`looseEquals_of_denotes`).
-/

namespace PayloadCheck.Value

open PayloadCheck.Number

variable {v w : Value}

/-! ### What is compared -/

/-- A truth value. -/
def IsTruth (v : Value) : Prop := ∃ t, v = bool t

theorem looseEquals_of_truth (h : v.IsTruth ∨ w.IsTruth) :
    looseEquals v w = .ok (v.looseTruth == w.looseTruth) := by
  rcases h with ⟨t, rfl⟩ | ⟨t, rfl⟩
  · cases w <;> rfl
  · cases v <;> rfl

theorem looseEquals_of_not_truth (hv : ¬ v.IsTruth) (hw : ¬ w.IsTruth) :
    looseEquals v w =
      if v.isNumeric && w.isNumeric then do
        let x ← v.toNumber
        let y ← w.toNumber
        return x.same y
      else if v.isPlainNumber || w.isPlainNumber then do
        let x ← v.comparable
        let y ← w.comparable
        return x == y
      else .ok (v.same w) :=
  looseEquals.eq_3 v w (fun t h => hv ⟨t, h⟩) fun t h => hw ⟨t, h⟩

theorem not_isTruth_of_isNumeric (h : v.isNumeric = true) : ¬ v.IsTruth := by
  rintro ⟨t, rfl⟩
  cases h

/-! ### Faults -/

/-- The fault of reading a number from a signalling decimal. -/
def signallingFault : Fault := .badValue "cannot convert signaling NaN to float"

/-- A decimal number of which every use is an error. -/
def IsSignalling (v : Value) : Prop :=
  ∃ negative payload, v = decimal (.undefined negative true payload)

theorem toNumber_of_isSignalling (h : v.IsSignalling) : v.toNumber = .error signallingFault := by
  obtain ⟨negative, payload, rfl⟩ := h
  rfl

/-- A value that is numeric is or denotes a number, unless it is a signalling decimal. -/
theorem exists_toNumber (h : v.isNumeric = true) (hquiet : ¬ v.IsSignalling) :
    ∃ n, v.toNumber = .ok n := by
  cases v with
  | int i => exact ⟨.whole i, rfl⟩
  | double d => exact ⟨.double d, rfl⟩
  | text s =>
    rw [toNumber_text]
    exact exists_numberOfText h
  | decimal d =>
    cases hd : d.toDouble? with
    | some x => exact ⟨.double x, by simp only [toNumber, hd]⟩
    | none =>
      cases d with
      | undefined negative signalling payload =>
        cases signalling with
        | true => exact absurd ⟨negative, payload, rfl⟩ hquiet
        | false => cases hd
      | _ => cases hd
  | _ => cases h

theorem raises_toNumber_of_isNumeric (h : v.isNumeric = true) :
    Raises (· = signallingFault) v.toNumber := by
  by_cases hquiet : v.IsSignalling
  · rw [toNumber_of_isSignalling hquiet]
    exact .error rfl
  · obtain ⟨n, hn⟩ := exists_toNumber h hquiet
    rw [hn]
    exact .ok n

/-- Values that have texts and are no signalling decimals can be compared. -/
theorem exists_looseEquals (hv : ∃ s, v.comparable = .ok s) (hw : ∃ s, w.comparable = .ok s)
    (hvquiet : ¬ v.IsSignalling) (hwquiet : ¬ w.IsSignalling) :
    ∃ equal, looseEquals v w = .ok equal := by
  by_cases htruth : v.IsTruth ∨ w.IsTruth
  · exact ⟨_, looseEquals_of_truth htruth⟩
  rw [not_or] at htruth
  rw [looseEquals_of_not_truth htruth.1 htruth.2]
  by_cases hnumeric : v.isNumeric = true ∧ w.isNumeric = true
  · obtain ⟨x, hx⟩ := exists_toNumber hnumeric.1 hvquiet
    obtain ⟨y, hy⟩ := exists_toNumber hnumeric.2 hwquiet
    rw [if_pos (by rw [hnumeric.1, hnumeric.2]; rfl), hx, hy]
    exact ⟨_, rfl⟩
  · rw [if_neg (by rwa [Bool.and_eq_true])]
    obtain ⟨s, hs⟩ := hv
    obtain ⟨t, ht⟩ := hw
    rw [hs, ht]
    split
    · exact ⟨_, rfl⟩
    · exact ⟨_, rfl⟩

/-! ### Symmetry -/

theorem looseEquals_comm (hv : v.WellFormed) (hw : w.WellFormed) :
    looseEquals v w = looseEquals w v := by
  by_cases htruth : v.IsTruth ∨ w.IsTruth
  · rw [looseEquals_of_truth htruth, looseEquals_of_truth htruth.symm]
    exact congrArg Except.ok BEq.comm
  rw [not_or] at htruth
  rw [looseEquals_of_not_truth htruth.1 htruth.2, looseEquals_of_not_truth htruth.2 htruth.1,
    Bool.and_comm w.isNumeric, Bool.or_comm w.isPlainNumber]
  split
  · rename_i hnumeric
    obtain ⟨hvn, hwn⟩ := Bool.and_eq_true_iff.mp hnumeric
    rw [(raises_toNumber_of_isNumeric hvn).comm (raises_toNumber_of_isNumeric hwn) Number.same]
    simp only [Number.same_comm]
  split
  · rw [(raises_comparable v).comm (raises_comparable w) fun x y => x == y]
    simp only [BEq.comm]
  · rw [same_comm hv hw]

/-! ### Whole numbers -/

theorem looseEquals_of_denotes {i k : Int} (hv : v.Denotes i) (hw : w.Denotes k) :
    looseEquals v w = .ok (i == k) := by
  rw [looseEquals_of_not_truth (not_isTruth_of_isNumeric hv.isNumeric)
      (not_isTruth_of_isNumeric hw.isNumeric), hv.isNumeric, hw.isNumeric, hv.toNumber, hw.toNumber]
  exact congrArg Except.ok ((same_whole i k).trans rfl)

end PayloadCheck.Value
