import PayloadCheck.Text.Blank
import PayloadCheck.Text.Property

/-!
# Blank characters are no word characters

The blanks beyond the first 128 characters are looked up in the tables of letters and numerals, which
hold none of them.
-/

namespace PayloadCheck.Text

/-- The code points of the blanks beyond the first 128 characters. -/
def wideBlanks : List Nat :=
  [0x85, 0xa0, 0x1680] ++ List.range' 0x2000 11 ++ [0x2028, 0x2029, 0x202f, 0x205f, 0x3000]

theorem letterTable_wideBlanks : ∀ n ∈ wideBlanks, letterTable.contains n = false := by
  rw [letterTable, CodeSet.read]
  simp only [List.flatMap_cons, List.flatMap_nil]
  repeat rw [String.toList_ofList]
  decide +kernel

theorem numeralTable_wideBlanks : ∀ n ∈ wideBlanks, numeralTable.contains n = false := by
  rw [numeralTable, CodeSet.read]
  simp only [List.flatMap_cons, List.flatMap_nil]
  repeat rw [String.toList_ofList]
  decide +kernel

theorem isWord_of_isBlank {c : Char} (h : isBlank c = true) : isWord c = false := by
  simp only [isBlank, Bool.or_eq_true, Bool.and_eq_true, decide_eq_true_eq, beq_iff_eq] at h
  have hunderscore : c ≠ '_' := by
    rintro rfl
    revert h
    decide
  rw [isWord, beq_false_of_ne hunderscore, Bool.false_or, isLetterOrNumeral]
  split
  · simp only [isAsciiLetter, isAsciiDigit, Bool.or_eq_false_iff, Bool.and_eq_false_iff,
      decide_eq_false_iff_not]
    omega
  · have hwide : c.toNat ∈ wideBlanks := by
      simp only [wideBlanks, List.mem_append, List.mem_range'_1, List.mem_cons, List.not_mem_nil,
        or_false]
      omega
    rw [letterTable_wideBlanks _ hwide, numeralTable_wideBlanks _ hwide, Bool.or_false]

end PayloadCheck.Text
