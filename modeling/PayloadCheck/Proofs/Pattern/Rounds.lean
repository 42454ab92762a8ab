import PayloadCheck.Proofs.Pattern.Delimiters

/-!
# Runs of characters between two anchors

A greedy repetition of a test of single characters tries every number of rounds before it gives up
(`isSome_greedyRounds_iff`). So an expression that asks for one or more characters of a class
between the beginning and the end matches the texts of such characters, and the same texts with one
line end behind them (`begins_run_iff`): the anchor at the end holds in front of a last line end too.
-/

namespace PayloadCheck.Pattern

open PayloadCheck.Text

/-! ### Greedy rounds -/

/-- A place with a property that is reached from `i` over at least `n` places, each of which passes a
test. -/
def Stops (test : Nat → Bool) (good : Nat → Prop) (i n : Nat) : Prop :=
  ∃ j, i + n ≤ j ∧ (∀ l, i ≤ l → l < j → test l = true) ∧ good j

section

variable {test : Nat → Bool} {good : Nat → Prop} {i : Nat}

theorem stops_succ_iff (n : Nat) :
    Stops test good i (n + 1) ↔ test i = true ∧ Stops test good (i + 1) n := by
  constructor
  · rintro ⟨j, hj, hall, hgood⟩
    exact ⟨hall i (Nat.le_refl i) (by omega), j, by omega,
      fun l hl => hall l (Nat.le_of_succ_le hl), hgood⟩
  · rintro ⟨htest, j, hj, hall, hgood⟩
    refine ⟨j, by omega, fun l hl hlj => ?_, hgood⟩
    rcases Nat.eq_or_lt_of_le hl with rfl | hl
    · exact htest
    · exact hall l hl hlj

theorem stops_zero_iff :
    Stops test good i 0 ↔ (test i = true ∧ Stops test good (i + 1) 0) ∨ good i := by
  rw [← stops_succ_iff]
  constructor
  · rintro ⟨j, hj, hall, hgood⟩
    rcases Nat.eq_or_lt_of_le hj with rfl | hj
    · exact Or.inr hgood
    · exact Or.inl ⟨j, hj, hall, hgood⟩
  · rintro (⟨j, hj, hall, hgood⟩ | hgood)
    · exact ⟨j, by omega, hall, hgood⟩
    · exact ⟨i, Nat.le_refl i, fun l hl hlj => absurd hlj (Nat.not_lt.mpr hl), hgood⟩

variable {body : Matcher} {k : Follow}

/-- Rounds that take one place each can end wherever what follows goes on, once the least number of
them is reached. The budget lasts as long as there are places that pass the test. -/
theorem isSome_greedyRounds_iff
    (hbody : ∀ i m k, body i m k = if test i then k (i + 1) m else none) {bound : Nat}
    (hbound : ∀ i, test i = true → i < bound) (m : Marks) {least budget count : Nat}
    {last : Option Nat} (hbudget : (bound - i) + (least - count) ≤ budget)
    (hlast : ∀ l ∈ last, l < i) :
    (greedyRounds body least none budget count last i m k).isSome = true ↔
      Stops test (fun j => (k j m).isSome = true) i (least - count) := by
  -- on the budget, which every round lowers as it takes a place that passes the test
  induction budget generalizing count last i with
  | zero =>
    have htest : ¬ test i = true := fun htest => by
      have := hbound i htest
      omega
    have hcount : least - count = 0 := by omega
    rw [greedyRounds, hcount, stops_zero_iff]
    simp [htest]
  | succ budget ih =>
    rw [greedyRounds, hbody, hbody]
    by_cases hcount : count < least
    · have hleft : least - count = (least - (count + 1)) + 1 := by omega
      rw [if_pos hcount, hleft, stops_succ_iff]
      by_cases htest : test i = true
      · rw [if_pos htest, ih (by omega) fun l hl => Nat.lt_succ_of_lt (hlast l hl)]
        simp [htest]
      · simp [htest]
    · have hgoes : mayGoOn none count last i = true := by
        have hne : last ≠ some i := fun h => Nat.lt_irrefl i (hlast i h)
        simp [mayGoOn, hne]
      have hnone : least - count = 0 := by omega
      rw [if_neg hcount, if_pos hgoes, hnone, stops_zero_iff,
        Option.orElse_eq_orElse, Option.orElse_eq_or, Option.isSome_or, Bool.or_eq_true]
      by_cases htest : test i = true
      · have hmore : least - (count + 1) = 0 := by omega
        have hbound := hbound i htest
        rw [if_pos htest, ih (by omega) (by simp), hmore]
        simp [htest]
      · simp [htest]

end

/-! ### Expressions of one class -/

/-- Whether an expression matches at the beginning of a text. -/
def Expression.begins (e : Expression) (text : String) : Bool :=
  (run text.toList.toArray e.pattern e.options 0 [] fun j m => some (j, m)).isSome

/-- One or more characters that pass a test, between the beginning and the end. -/
def runOf (t : CharTest) : Pattern :=
  .seq (.anchor .lineStart) (.seq (.repeated .greedy 1 none (.char t)) (.anchor .lineEnd))

variable {o : Options} {t : CharTest}

/-- The end of a text as an anchor sees it: nothing is left, or a last line end is. -/
theorem holds_lineEnd_iff (hline : o.multiline = false) {cs : List Char} {j : Nat}
    (hj : j ≤ cs.length) : Anchor.lineEnd.holds o cs.toArray j = true ↔ IsUnseen (cs.drop j) := by
  have hsize : cs.toArray.size = cs.length := List.size_toArray
  simp only [Anchor.holds, hline, Bool.false_or, hsize, Bool.or_eq_true, Bool.and_eq_true,
    beq_iff_eq, List.getElem?_toArray, IsUnseen]
  constructor
  · rintro (rfl | ⟨hend, hlast⟩)
    · exact Or.inl List.drop_length
    · obtain ⟨hlt, hchar⟩ := List.getElem?_eq_some_iff.mp hend
      right
      rw [List.drop_eq_getElem_cons hlt, hchar, hlast, List.drop_length]
  · rintro (hnone | hend)
    · left
      have := List.drop_eq_nil_iff.mp hnone
      omega
    · right
      have hlength : cs.length - j = 1 := by rw [← List.length_drop, hend, List.length_singleton]
      have hchar : (cs.drop j)[0]? = some '\n' := by rw [hend]; rfl
      rw [List.getElem?_drop, Nat.add_zero] at hchar
      exact ⟨hchar, by omega⟩

/-- Whether the character at a place passes a test. -/
def passesAt (o : Options) (t : CharTest) (cs : List Char) (i : Nat) : Bool :=
  cs[i]?.any (CharTest.holds o · t)

theorem lt_length_of_passesAt {cs : List Char} {i : Nat} (h : passesAt o t cs i = true) :
    i < cs.length := by
  unfold passesAt at h
  cases hchar : cs[i]? with
  | none =>
    rw [hchar] at h
    cases h
  | some c => exact (List.getElem?_eq_some_iff.mp hchar).1

theorem run_char (cs : List Char) (i : Nat) (m : Marks) (k : Follow) :
    run cs.toArray (.char t) o i m k = if passesAt o t cs i then k (i + 1) m else none := by
  unfold run passesAt
  rw [List.getElem?_toArray]
  cases cs[i]? <;> rfl

theorem stops_passesAt_iff (hline : o.multiline = false) {cs : List Char} :
    Stops (passesAt o t cs) (fun j => Anchor.lineEnd.holds o cs.toArray j = true) 0 1 ↔
      ∃ core line, IsUnseen line ∧ cs = core ++ line ∧ core ≠ [] ∧
        ∀ c ∈ core, t.holds o c = true := by
  constructor
  · rintro ⟨j, hj, hall, hend⟩
    have hlength : j ≤ cs.length := by
      have hlast := lt_length_of_passesAt (hall (j - 1) (Nat.zero_le _) (by omega))
      omega
    refine ⟨cs.take j, cs.drop j, (holds_lineEnd_iff hline hlength).mp hend,
      (List.take_append_drop j cs).symm, ?_, fun c hc => ?_⟩
    · intro hnil
      have := congrArg List.length hnil
      rw [List.length_take, List.length_nil] at this
      omega
    · obtain ⟨l, hl, rfl⟩ := List.mem_take_iff_getElem.mp hc
      have hpasses := hall l (Nat.zero_le _) (by omega)
      unfold passesAt at hpasses
      rwa [List.getElem?_eq_getElem (by omega)] at hpasses
  · rintro ⟨core, line, hunseen, rfl, hne, hall⟩
    have hpositive : 0 < core.length := List.length_pos_iff.mpr hne
    refine ⟨core.length, by omega, fun l _ hl => ?_, ?_⟩
    · unfold passesAt
      rw [List.getElem?_append_left hl, List.getElem?_eq_getElem hl]
      exact hall _ (List.getElem_mem hl)
    · refine (holds_lineEnd_iff hline (by simp)).mpr ?_
      rw [List.drop_left]
      exact hunseen

/-- An expression of one class between the anchors matches the texts of one or more of its characters,
with a line end behind them or without. -/
theorem begins_run_iff (hline : o.multiline = false) (body text : String) :
    (Expression.mk body o (runOf t)).begins text = true ↔
      ∃ core line, IsUnseen line ∧ text.toList = core ++ line ∧ core ≠ [] ∧
        ∀ c ∈ core, t.holds o c = true := by
  have hstart : Anchor.lineStart.holds o text.toList.toArray 0 = true := rfl
  have hfollow : ∀ j m, (run text.toList.toArray (.anchor .lineEnd) o j m fun j m =>
      some (j, m)).isSome = true ↔ Anchor.lineEnd.holds o text.toList.toArray j = true := by
    intro j m
    rw [run]
    split <;> simp [*]
  unfold Expression.begins runOf
  rw [run, run, if_pos hstart, run, run, rounds,
    isSome_greedyRounds_iff (run_char text.toList) (fun i => lt_length_of_passesAt) [] (by simp; omega)
      (by simp)]
  simp only [hfollow]
  exact stops_passesAt_iff hline

end PayloadCheck.Pattern
