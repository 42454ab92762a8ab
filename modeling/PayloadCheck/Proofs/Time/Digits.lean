import Mathlib.Algebra.Ring.Nat
import PayloadCheck.Time.Format
import PayloadCheck.Time.Iso

/-!
# Padded numbers are read back

A number that is written with as many decimal digits as a field of a date has is what both readers
of dates find there: the one of the standard notation (`takeDigits?_padded`) and the one of formats
(`decimalOf_padded`).
-/

namespace PayloadCheck.Time

open PayloadCheck.Number PayloadCheck.Text

/-! ### Single digits -/

theorem isAsciiDigit_digitChar (n : Nat) : isAsciiDigit (digitChar (n % 10)) = true := by
  have hdigits : ∀ n < 10, isAsciiDigit (digitChar n) = true := by decide
  exact hdigits _ (Nat.mod_lt _ (by omega))

theorem toNat_digitChar (n : Nat) : (digitChar (n % 10)).toNat = 48 + n % 10 := by
  have hdigits : ∀ n < 10, (digitChar n).toNat = 48 + n := by decide
  exact hdigits _ (Nat.mod_lt _ (by omega))

theorem ne_of_isAsciiDigit {c m : Char} (h : isAsciiDigit c = true) (hm : isAsciiDigit m = false) :
    c ≠ m := by
  rintro rfl
  rw [h] at hm
  exact Bool.noConfusion hm

theorem decimalValue?_of_isAsciiDigit {c : Char} (h : isAsciiDigit c = true) :
    decimalValue? c = some (c.toNat - 48) := by
  have hrange : 48 ≤ c.toNat ∧ c.toNat ≤ 57 := by simpa [isAsciiDigit] using h
  have hascii : c.toNat < 128 := by omega
  simp [decimalValue?, hascii, h]

theorem isBlank_of_isAsciiDigit {c : Char} (h : isAsciiDigit c = true) : isBlank c = false := by
  have hrange : 48 ≤ c.toNat ∧ c.toNat ≤ 57 := by simpa [isAsciiDigit] using h
  simp only [isBlank, Bool.or_eq_false_iff, Bool.and_eq_false_iff, beq_eq_false_iff_ne,
    decide_eq_false_iff_not]
  omega

/-! ### Padded numbers -/

theorem isAsciiDigit_of_mem_padded {width n : Nat} {c : Char} (h : c ∈ padded width n) :
    isAsciiDigit c = true := by
  induction width generalizing n with
  | zero => cases h
  | succ width ih =>
    rw [padded, List.mem_append, List.mem_singleton] at h
    rcases h with h | rfl
    · exact ih h
    · exact isAsciiDigit_digitChar n

theorem exists_head_padded (width n : Nat) :
    ∃ c rest, padded (width + 1) n = c :: rest ∧ isAsciiDigit c = true := by
  have hne : padded (width + 1) n ≠ [] := List.ne_nil_of_length_eq_add_one (length_padded _ n)
  obtain ⟨c, rest, hcons⟩ := List.exists_cons_of_ne_nil hne
  have hmem : c ∈ padded (width + 1) n := by
    rw [hcons]
    exact List.mem_cons_self ..
  exact ⟨c, rest, hcons, isAsciiDigit_of_mem_padded hmem⟩

theorem foldl_padded (width n : Nat) :
    (padded width n).foldl (fun v c => 10 * v + (c.toNat - 48)) 0 = n % 10 ^ width := by
  induction width generalizing n with
  | zero => simp [padded, Nat.mod_one]
  | succ width ih =>
    have hdigit : (digitChar (n % 10)).toNat - 48 = n % 10 := by
      rw [toNat_digitChar]
      omega
    rw [padded, List.foldl_append, ih, List.foldl_cons, List.foldl_nil, hdigit, Nat.pow_succ',
      Nat.mod_mul, Nat.add_comm]

theorem takeDigits?_padded {width n : Nat} (h : n < 10 ^ width) (rest : List Char) :
    takeDigits? width (padded width n ++ rest) = some (n, rest) := by
  have hlength : (padded width n).length = width := length_padded width n
  have hall : (padded width n).all isAsciiDigit = true := by
    rw [List.all_eq_true]
    intro c hc
    exact isAsciiDigit_of_mem_padded hc
  have htake : (padded width n ++ rest).take width = padded width n := List.take_left' hlength
  have hdrop : (padded width n ++ rest).drop width = rest := List.drop_left' hlength
  simp [takeDigits?, htake, hdrop, hlength, hall, foldl_padded, Nat.mod_eq_of_lt h]

theorem decimalOf_padded {width n : Nat} (h : n < 10 ^ width) : decimalOf (padded width n) = n := by
  have hblank : (padded width n).dropWhile isBlank = padded width n := by
    cases hcs : padded width n with
    | nil => rfl
    | cons c rest =>
      have hc : c ∈ padded width n := by simp [hcs]
      rw [List.dropWhile_cons_of_neg]
      simp [isBlank_of_isAsciiDigit (isAsciiDigit_of_mem_padded hc)]
  have hvalues : (padded width n).map (fun c => (decimalValue? c).getD 0) =
      (padded width n).map fun c => c.toNat - 48 := by
    apply List.map_congr_left
    intro c hc
    rw [decimalValue?_of_isAsciiDigit (isAsciiDigit_of_mem_padded hc)]
    rfl
  rw [decimalOf, hblank, hvalues, ofDigits, List.foldl_map, foldl_padded, Nat.mod_eq_of_lt h]

end PayloadCheck.Time
