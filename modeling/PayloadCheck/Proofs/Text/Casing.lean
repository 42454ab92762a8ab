import PayloadCheck.Proofs.Rule.Folding

/-!
# Small and capital forms beyond the first 128 characters

Only letters of the first 128 characters have one of the letters of `regex` as their small or their
capital form (`mem_regexLetters_of_lowerChars`, `mem_regexLetters_of_upperChars`), and the capital
form of a character holds nothing that parts the words of a name
(`isWordGap_of_mem_upperChars`). Both are read off the intervals of which the tables of cases are
made.
-/

namespace PayloadCheck.Text

open PayloadCheck.Rule

/-! ### Tables of runs -/

namespace CaseTable

theorem search_eq_some {a : Array CaseRun} {n fuel lo hi : Nat} {run : CaseRun}
    (h : search a n fuel lo hi = some run) : run ∈ a ∧ run.first ≤ n ∧ n ≤ run.last := by
  induction fuel generalizing lo hi with
  | zero => cases h
  | succ fuel ih =>
    unfold search at h
    dsimp only at h
    split at h
    · split at h
      · cases h
      next middle hmiddle =>
      split at h
      · exact ih h
      next hfirst =>
      split at h
      · exact ih h
      next hlast =>
      cases h
      exact ⟨Array.mem_of_getElem? hmiddle, Nat.le_of_not_lt hfirst, Nat.le_of_not_lt hlast⟩
    · cases h

/-- None of the runs of a table leads to one of some code points. -/
def Avoids (t : CaseTable) (codes : List Nat) : Prop :=
  ∀ run ∈ t.runs.toList, ∀ code ∈ codes,
    ¬ (run.first + run.shift ≤ (code : Int) ∧ (code : Int) ≤ run.last + run.shift)

theorem Avoids.notMem {t : CaseTable} {codes : List Nat} (h : t.Avoids codes) (hzero : 0 ∉ codes)
    {n m : Nat} (hfind : t.find? n = some m) : m ∉ codes := by
  intro hmem
  have hm : m ≠ 0 := fun h0 => hzero (h0 ▸ hmem)
  unfold find? at hfind
  split at hfind
  · next run hsearch =>
    obtain ⟨hrun, hfirst, hlast⟩ := search_eq_some hsearch
    split at hfind
    · cases hfind
      refine h run (Array.mem_toList_iff.mpr hrun) _ hmem ?_
      omega
    · cases hfind
  · cases hfind

end CaseTable

theorem toNat_ofNat_notMem {codes : List Nat} (hzero : 0 ∉ codes) {m : Nat} (hm : m ∉ codes) :
    (Char.ofNat m).toNat ∉ codes := by
  by_cases hvalid : m.isValidChar
  · rw [Char.ofNat, dif_pos hvalid]
    exact hm
  · rw [Char.ofNat, dif_neg hvalid]
    exact hzero

/-! ### Letters that are kept apart -/

/-- The letters of `regex`, of both cases. -/
def regexLetters : List Char := ['r', 'e', 'g', 'x', 'R', 'E', 'G', 'X']

/-- The code points of these letters. -/
def letterCodes : List Nat := regexLetters.map Char.toNat

/-- The code points of the characters that part the words of a name. -/
def gapCodes : List Nat :=
  [0x2d, 0x5f] ++ List.range' 9 5 ++ List.range' 28 5 ++ [0x85, 0xa0, 0x1680] ++
    List.range' 0x2000 11 ++ [0x2028, 0x2029, 0x202f, 0x205f, 0x3000]

theorem toNat_mem_letterCodes {c : Char} (h : c ∈ regexLetters) : c.toNat ∈ letterCodes :=
  List.mem_map_of_mem h

theorem toNat_mem_gapCodes_iff {c : Char} : c.toNat ∈ gapCodes ↔ isWordGap c = true := by
  have hhyphen : c = '-' ↔ c.toNat = 0x2d := Char.toNat_inj.symm
  have hunderscore : c = '_' ↔ c.toNat = 0x5f := Char.toNat_inj.symm
  simp only [gapCodes, List.mem_append, List.mem_range'_1, List.mem_cons, List.not_mem_nil,
    or_false, isWordGap, isBlank, Bool.or_eq_true, beq_iff_eq, hhyphen, hunderscore,
    Bool.and_eq_true, decide_eq_true_eq]
  omega

theorem lowerTable_avoids : lowerTable.Avoids letterCodes := by
  unfold CaseTable.Avoids
  rw [lowerTable, CaseTable.read]
  simp only [List.flatMap_cons, List.flatMap_nil]
  repeat rw [String.toList_ofList]
  decide +kernel

theorem upperTable_avoids : upperTable.Avoids (letterCodes ++ gapCodes) := by
  unfold CaseTable.Avoids
  rw [upperTable, CaseTable.read]
  simp only [List.flatMap_cons, List.flatMap_nil]
  repeat rw [String.toList_ofList]
  decide +kernel

theorem upperExpansions_avoid : ∀ e ∈ upperExpansions,
    e.2 ≠ [] ∧ ∀ code ∈ e.2.map Char.toNat, code ∉ letterCodes ++ gapCodes := by
  unfold upperExpansions
  simp only [List.flatMap_cons, List.flatMap_nil]
  repeat rw [String.toList_ofList]
  decide +kernel

/-! ### Small and capital forms -/

variable {c d : Char}

theorem not_mem_letterCodes_of_le (hc : ¬ c.toNat < 128) : c.toNat ∉ letterCodes := by
  intro hmem
  have hlow : ∀ code ∈ letterCodes, code < 128 := by decide
  exact hc (hlow _ hmem)

theorem toNat_notMem_of_mem_lowerChars (hc : ¬ c.toNat < 128) (hd : d ∈ lowerChars c) :
    d.toNat ∉ letterCodes := by
  unfold lowerChars at hd
  rw [if_neg hc] at hd
  split at hd
  · rcases List.mem_cons.mp hd with rfl | hd
    · decide
    · rw [List.mem_singleton.mp hd]
      decide
  · rw [List.mem_singleton.mp hd]
    split
    · next m hm => exact toNat_ofNat_notMem (by decide) (lowerTable_avoids.notMem (by decide) hm)
    · exact not_mem_letterCodes_of_le hc

/-- Beyond the first 128 characters a capital form is not empty, and it holds neither a letter that is
kept apart nor a gap. -/
theorem upperChars_avoids (hc : ¬ c.toNat < 128) (hgap : isWordGap c = false) :
    upperChars c ≠ [] ∧ ∀ d ∈ upperChars c, d.toNat ∉ letterCodes ++ gapCodes := by
  unfold upperChars
  rw [if_neg hc]
  split
  · next cs hcs =>
    obtain ⟨before, after, hentries, -⟩ := List.lookup_eq_some_iff.mp hcs
    have hentry : (c.toNat, cs) ∈ upperExpansions := by
      rw [hentries]
      exact List.mem_append_right _ List.mem_cons_self
    obtain ⟨hne, havoid⟩ := upperExpansions_avoid _ hentry
    exact ⟨hne, fun d hd => havoid _ (List.mem_map_of_mem hd)⟩
  · refine ⟨List.cons_ne_nil _ _, List.forall_mem_singleton.mpr ?_⟩
    split
    · next m hm => exact toNat_ofNat_notMem (by decide) (upperTable_avoids.notMem (by decide) hm)
    · rw [List.mem_append, toNat_mem_gapCodes_iff, hgap]
      rintro (hmem | hmem)
      · exact not_mem_letterCodes_of_le hc hmem
      · cases hmem

/-- The capital form of a character between gaps holds no gap. -/
theorem isWordGap_of_mem_upperChars (hgap : isWordGap c = false) (hd : d ∈ upperChars c) :
    isWordGap d = false := by
  by_cases hc : c.toNat < 128
  · rw [upperChars_eq hc, List.mem_singleton] at hd
    rw [hd, isWordGap_toUpper hc, hgap]
  · have hcode := (upperChars_avoids hc hgap).2 d hd
    rw [List.mem_append, toNat_mem_gapCodes_iff, not_or] at hcode
    exact Bool.eq_false_iff.mpr hcode.2

theorem mem_regexLetters_of_lowerChars (h : ∀ d ∈ lowerChars c, d ∈ regexLetters) :
    c ∈ regexLetters := by
  by_cases hc : c.toNat < 128
  · rw [lowerChars_eq hc, List.forall_mem_singleton] at h
    exact of_forall_lt (p := fun c => c.toLower ∈ regexLetters → c ∈ regexLetters) (by decide) hc h
  · have hne : lowerChars c ≠ [] := by
      unfold lowerChars
      rw [if_neg hc]
      split <;> exact List.cons_ne_nil _ _
    obtain ⟨d, hd⟩ := List.exists_mem_of_ne_nil _ hne
    exact absurd (toNat_mem_letterCodes (h d hd)) (toNat_notMem_of_mem_lowerChars hc hd)

theorem mem_regexLetters_of_upperChars (hgap : isWordGap c = false)
    (h : ∀ d ∈ upperChars c, d ∈ regexLetters) : c ∈ regexLetters := by
  by_cases hc : c.toNat < 128
  · rw [upperChars_eq hc, List.forall_mem_singleton] at h
    exact of_forall_lt (p := fun c => c.toUpper ∈ regexLetters → c ∈ regexLetters) (by decide) hc h
  · obtain ⟨hne, havoids⟩ := upperChars_avoids hc hgap
    obtain ⟨d, hd⟩ := List.exists_mem_of_ne_nil _ hne
    exact absurd (List.mem_append_left _ (toNat_mem_letterCodes (h d hd))) (havoids d hd)

end PayloadCheck.Text
