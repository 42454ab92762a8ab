import Mathlib
import PayloadCheck.Proofs.Check.Pass
import PayloadCheck.Proofs.Pattern.Rounds
import PayloadCheck.Proofs.Text.Classes

/-!
# Letters, numerals and hyphens

The rules `alpha`, `alpha_num` and `alpha_dash` accept the texts of one or more characters of a
class, and each of these texts with a line end behind it (`letters_up_to_line_end`). This is what
the expressions say that the rules are written with (`LetterClass.isOf_iff_begins`), for the anchor
at their end holds in front of a last line end. A text with any other blank in it is refused.
-/

namespace PayloadCheck.Check

open PayloadCheck.Pattern PayloadCheck.Presence PayloadCheck.Rule PayloadCheck.Text
  PayloadCheck.Value

/-! ### Texts of one class -/

/-- Texts of one or more characters with a property. -/
def IsMadeOf (p : Char → Prop) (s : String) : Prop := s ≠ "" ∧ ∀ c ∈ s.toList, p c

instance (p : Char → Prop) [DecidablePred p] (s : String) : Decidable (IsMadeOf p s) :=
  decidable_of_iff (s ≠ "" ∧ s.toList.all (p ·) = true) (by simp [IsMadeOf])

theorem isMadeOf_iff {p : Char → Prop} {s : String} :
    IsMadeOf p s ↔ s.toList ≠ [] ∧ ∀ c ∈ s.toList, p c := by
  simp [IsMadeOf]

/-- Such a text, perhaps with a line end behind it. -/
def IsMadeUpToLineEnd (p : Char → Prop) (s : String) : Prop :=
  IsMadeOf p s ∨ ∃ t, s = t ++ "\n" ∧ IsMadeOf p t

theorem isMadeUpToLineEnd_iff {p : Char → Prop} {s : String} : IsMadeUpToLineEnd p s ↔
    ∃ core line, IsUnseen line ∧ s.toList = core ++ line ∧ core ≠ [] ∧ ∀ c ∈ core, p c := by
  constructor
  · rintro (h | ⟨t, rfl, h⟩)
    · obtain ⟨hne, hall⟩ := isMadeOf_iff.mp h
      exact ⟨s.toList, [], Or.inl rfl, (List.append_nil _).symm, hne, hall⟩
    · obtain ⟨hne, hall⟩ := isMadeOf_iff.mp h
      exact ⟨t.toList, ['\n'], Or.inr rfl, String.toList_append, hne, hall⟩
  · rintro ⟨core, line, rfl | rfl, hs, hne, hall⟩
    · rw [List.append_nil] at hs
      exact Or.inl (isMadeOf_iff.mpr (hs ▸ ⟨hne, hall⟩))
    · refine Or.inr ⟨String.ofList core, ?_, ?_⟩
      · rw [← String.toList_inj, hs, String.toList_append, String.toList_ofList]
        rfl
      · rw [isMadeOf_iff, String.toList_ofList]
        exact ⟨hne, hall⟩

theorem isOf_iff {p : Char → Bool} (hline : p '\n' = false) {s : String} :
    isOf p s = true ↔ IsMadeUpToLineEnd (fun c => p c = true) s := by
  rw [isMadeUpToLineEnd_iff]
  simp only [isOf, Bool.and_eq_true, Bool.not_eq_true', List.isEmpty_eq_false_iff,
    List.all_eq_true]
  constructor
  · rintro ⟨hne, hall⟩
    obtain ⟨line, hunseen, hs⟩ := exists_unseen s.toList
    exact ⟨_, line, hunseen, hs, hne, hall⟩
  · rintro ⟨core, line, hunseen, hs, hne, hall⟩
    have hplain : '\n' ∉ core := by
      intro hmem
      rw [hall _ hmem] at hline
      cases hline
    rw [hs, dropLineEnd_append hplain hunseen]
    exact ⟨hne, hall⟩

/-! ### The three classes -/

/-- The classes that have a rule. -/
inductive LetterClass where
  | alpha
  | alphaNum
  | alphaDash
deriving DecidableEq, Repr

namespace LetterClass

/-- The name of the rule. -/
def name : LetterClass → String
  | alpha => "alpha"
  | alphaNum => "alpha_num"
  | alphaDash => "alpha_dash"

/-- The characters of a class. -/
def Admits : LetterClass → Char → Prop
  | alpha, c => isWord c = true ∧ isDecimal c = false ∧ c ≠ '_'
  | alphaNum, c => isWord c = true ∧ c ≠ '_'
  | alphaDash, c => isWord c = true ∨ c = '-'

instance (k : LetterClass) : DecidablePred k.Admits := fun c =>
  match k with
  | alpha => inferInstanceAs (Decidable (isWord c = true ∧ isDecimal c = false ∧ c ≠ '_'))
  | alphaNum => inferInstanceAs (Decidable (isWord c = true ∧ c ≠ '_'))
  | alphaDash => inferInstanceAs (Decidable (isWord c = true ∨ c = '-'))

/-- The test of a class by which the rule goes. -/
def test : LetterClass → Char → Bool
  | alpha => isAlpha
  | alphaNum => isAlphaNum
  | alphaDash => isAlphaDash

/-- The expression that a rule is written with. -/
def written : LetterClass → String
  | alpha => "^[^\\W\\d_]+$"
  | alphaNum => "^[^\\W_]+$"
  | alphaDash => "^[\\w-]+$"

/-- The test of characters in that expression. -/
def charTest : LetterClass → CharTest
  | alpha => .among true [.cls .word true, .cls .digit false, .one 95]
  | alphaNum => .among true [.cls .word true, .one 95]
  | alphaDash => .among false [.cls .word false, .one 45]

theorem test_iff (k : LetterClass) (c : Char) : k.test c = true ↔ k.Admits c := by
  cases k <;> simp [test, Admits, isAlpha, isAlphaNum, isAlphaDash, and_assoc]

theorem holds_charTest_iff (k : LetterClass) (c : Char) :
    k.charTest.holds {} c = true ↔ k.Admits c := by
  have hunderscore : c.toNat = 95 ↔ c = '_' := Char.toNat_inj (d := '_')
  have hhyphen : c.toNat = 45 ↔ c = '-' := Char.toNat_inj (d := '-')
  cases k <;>
    simp [charTest, Admits, CharTest.holds, Member.holds, CharClass.holds, hunderscore, hhyphen]

theorem ofParameter_written (k : LetterClass) :
    Expression.ofParameter k.written = .ok ⟨k.written, {}, runOf k.charTest⟩ := by
  cases k <;> cbv

theorem isBlank_of_admits {k : LetterClass} {c : Char} (h : k.Admits c) : isBlank c = false := by
  cases hblank : isBlank c with
  | false => rfl
  | true =>
    have hword := isWord_of_isBlank hblank
    have hhyphen : c ≠ '-' := by
      rintro rfl
      cases hblank
    cases k <;> simp [Admits, hword, hhyphen] at h

theorem admits_alphaNum_of_alpha {c : Char} (h : alpha.Admits c) : alphaNum.Admits c := ⟨h.1, h.2.2⟩

theorem admits_alphaDash_of_alphaNum {c : Char} (h : alphaNum.Admits c) : alphaDash.Admits c :=
  Or.inl h.1

/-- The check of a class does what its expression says. -/
theorem isOf_iff_begins (k : LetterClass) (s : String) :
    (isOf k.test s = true ↔ IsMadeUpToLineEnd k.Admits s) ∧
      (isOf k.test s = true ↔
        ∃ x, Expression.ofParameter k.written = .ok x ∧ x.begins s = true) := by
  have hline : k.test '\n' = false := by cases k <;> decide
  have hmade : isOf k.test s = true ↔ IsMadeUpToLineEnd k.Admits s := by
    rw [isOf_iff hline]
    simp only [k.test_iff]
  refine ⟨hmade, ?_⟩
  rw [hmade, k.ofParameter_written]
  have hbegins : (Expression.mk k.written {} (runOf k.charTest)).begins s = true ↔
      IsMadeUpToLineEnd k.Admits s := by
    rw [begins_run_iff rfl, isMadeUpToLineEnd_iff]
    simp only [k.holds_charTest_iff]
  constructor
  · intro h
    exact ⟨_, rfl, hbegins.mpr h⟩
  · rintro ⟨x, hx, h⟩
    cases hx
    exact hbegins.mp h

end LetterClass

open LetterClass

theorem IsMadeUpToLineEnd.mono {p q : Char → Prop} (hpq : ∀ c, p c → q c) {s : String}
    (h : IsMadeUpToLineEnd p s) : IsMadeUpToLineEnd q s := by
  rcases h with ⟨hne, hall⟩ | ⟨t, hs, hne, hall⟩
  · exact Or.inl ⟨hne, fun c hc => hpq c (hall c hc)⟩
  · exact Or.inr ⟨t, hs, hne, fun c hc => hpq c (hall c hc)⟩

/-- Where a character without the property stands in such a text, it is the line end. -/
theorem IsMadeUpToLineEnd.eq_lineEnd {p : Char → Prop} {s : String} (h : IsMadeUpToLineEnd p s)
    {before after : List Char} {c : Char} (hs : s.toList = before ++ c :: after) (hc : ¬ p c) :
    c = '\n' ∧ after = [] := by
  obtain ⟨core, line, hunseen, hparts, -, hall⟩ := isMadeUpToLineEnd_iff.mp h
  have hnot : c ∉ core := fun hmem => hc (hall c hmem)
  have hend : ∃ more, line = more ++ c :: after := by
    rcases List.append_eq_append_iff.mp (hs.symm.trans hparts) with
      ⟨more, hcore, hline⟩ | ⟨more, -, hline⟩
    · cases more with
      | nil => exact ⟨[], hline.symm⟩
      | cons d rest =>
        rw [List.cons_append, List.cons.injEq] at hline
        exact absurd (by simp [hcore, hline.1]) hnot
    · exact ⟨more, hline⟩
  obtain ⟨more, rfl⟩ := hend
  rcases hunseen with hnil | hsingle
  · exact absurd hnil (by simp)
  · cases more with
    | nil =>
      rw [List.nil_append, List.cons.injEq] at hsingle
      exact hsingle
    | cons d rest => simp at hsingle

/-! ### The rules -/

theorem LetterClass.check_mem (k : LetterClass) (resolves : List Char → Bool) :
    ∃ decide, Check.deciding k.name 0 decide ∈ patternChecks resolves ∧
      ∀ c field s ps, decide c field (.text s) ps = .ok (isOf k.test s) := by
  cases k with
  | alpha => exact ⟨_, List.mem_of_getElem? (i := 5) rfl, fun _ _ _ _ => rfl⟩
  | alphaNum => exact ⟨_, List.mem_of_getElem? (i := 6) rfl, fun _ _ _ _ => rfl⟩
  | alphaDash => exact ⟨_, List.mem_of_getElem? (i := 7) rfl, fun _ _ _ _ => rfl⟩

theorem Engine.dispatch_letters {resolves : List Char → Bool} {e : Engine}
    (hcatalogue : e.catalogue = builtinFor resolves) {k : LetterClass} {rule : Spec}
    (hkey : rule.key = Rule.key k.name) (verifier : Option Verifier) (field s : String)
    (j : Journal) : e.dispatch verifier field (.text s) rule j = (.ok (isOf k.test s), j) := by
  obtain ⟨decide, hmem, hdecide⟩ := k.check_mem resolves
  rw [dispatch_builtin hcatalogue (patternChecks_subset resolves hmem) hkey (Nat.zero_le _),
    hdecide]

/-- **Letters up to a line end.** Over a text `alpha`, `alpha_num` and `alpha_dash` give a verdict, the
    one of the expressions that they are written with. They accept the texts of one or more
    characters of their class, and these with one line end behind them, and nothing else: without a
    line end at its end a text is accepted iff it is not empty and all its characters are of the
    class. What `alpha` accepts, `alpha_num` accepts, and what that accepts, `alpha_dash` accepts.
    A blank in an accepted text is a line end at its end. -/
theorem letters_up_to_line_end {resolves : List Char → Bool} {e : Engine}
    (hcatalogue : e.catalogue = builtinFor resolves) {rule : LetterClass → Spec}
    (hkey : ∀ k, (rule k).key = Rule.key k.name) (verifier : Option Verifier) (field : String)
    (j : Journal) :
    let verdict := fun k s => (e.dispatch verifier field (.text s) (rule k) j).1
    let passes := fun k s => verdict k s = .ok true
    (∀ k s, passes k s ∨ verdict k s = .ok false) ∧
    (∀ k s, passes k s ↔
      ∃ x, Expression.ofParameter k.written = .ok x ∧ x.begins s = true) ∧
    (∀ k s, passes k s ↔ IsMadeUpToLineEnd k.Admits s) ∧
    (∀ k s, s.toList.getLast? ≠ some '\n' → (passes k s ↔ IsMadeOf k.Admits s)) ∧
    (∀ s, (passes .alpha s → passes .alphaNum s) ∧ (passes .alphaNum s → passes .alphaDash s)) ∧
    ∀ k s before c after, passes k s → s.toList = before ++ c :: after → isBlank c = true →
      c = '\n' ∧ after = [] := by
  intro verdict passes
  have hverdict : ∀ k s, verdict k s = .ok (isOf k.test s) := fun k s =>
    congrArg Prod.fst (Engine.dispatch_letters hcatalogue (hkey k) verifier field s j)
  have hpasses : ∀ k s, passes k s ↔ isOf k.test s = true := by
    intro k s
    simp only [passes, hverdict, Except.ok.injEq]
  have hmade : ∀ k s, passes k s ↔ IsMadeUpToLineEnd k.Admits s := fun k s =>
    (hpasses k s).trans (k.isOf_iff_begins s).1
  refine ⟨?decides, ?written, hmade, ?plain, ?nested, ?blank⟩
  case decides =>
    intro k s
    simp only [passes, hverdict]
    cases isOf k.test s <;> simp
  case written => exact fun k s => (hpasses k s).trans (k.isOf_iff_begins s).2
  case plain =>
    intro k s hlast
    rw [hmade, IsMadeUpToLineEnd, or_iff_left]
    rintro ⟨t, rfl, -⟩
    exact hlast (by simp)
  case nested =>
    intro s
    simp only [hmade]
    exact ⟨fun h => h.mono fun _ => admits_alphaNum_of_alpha,
      fun h => h.mono fun _ => admits_alphaDash_of_alphaNum⟩
  case blank =>
    intro k s before c after haccepted hs hblank
    refine ((hmade k s).mp haccepted).eq_lineEnd hs fun hadmits => ?_
    rw [isBlank_of_admits hadmits] at hblank
    cases hblank

/-- A line end at the end is passed over, and one between two letters is not; digits, underscores and
hyphens tell the classes apart. -/
theorem letters_up_to_line_end_short :
    let e : Engine := ⟨"adhoc", [], builtin, .ofPayload [], ⟨[], []⟩, default⟩
    let passes := fun (k : LetterClass) s =>
      (e.dispatch none "name" (.text s) ⟨k.name, []⟩ {}).1 = .ok true
    passes .alpha "ab\n" ∧ ¬ passes .alphaDash "a\nb" ∧
      (passes .alphaNum "a1" ∧ ¬ passes .alpha "a1") ∧
      passes .alphaDash "a_1-" ∧ ¬ passes .alphaNum "a_1-" := by
  -- kept closed, for its keys are computed by the tables of all letters
  generalize hcatalogue : builtin = catalogue
  intro e passes
  have hkey : ∀ k : LetterClass, Spec.key ⟨k.name, []⟩ = Rule.key k.name := fun _ => rfl
  obtain ⟨-, -, hmade, hplain, -, hblank⟩ :=
    letters_up_to_line_end (e := e) hcatalogue.symm hkey none "name" {}
  have hline : IsMadeOf (Admits .alpha) "ab" := by decide
  refine ⟨(hmade .alpha _).mpr (Or.inr ⟨"ab", rfl, hline⟩), ?_, ⟨?_, ?_⟩, ?_, ?_⟩
  · intro h
    cases (hblank .alphaDash "a\nb" ['a'] '\n' ['b'] h rfl rfl).2
  · exact (hplain .alphaNum "a1" (by decide)).mpr (by decide)
  · intro h
    exact absurd ((hplain .alpha "a1" (by decide)).mp h) (by decide)
  · exact (hplain .alphaDash "a_1-" (by decide)).mpr (by decide)
  · intro h
    exact absurd ((hplain .alphaNum "a_1-" (by decide)).mp h) (by decide)

/-- A letter with a line end behind it is accepted, though a line end is no word character. -/
theorem alpha_of_line_end : ¬ ∀ (e : Engine) (s : String), e.catalogue = builtin →
    ((e.dispatch none "name" (.text s) ⟨"alpha", []⟩ {}).1 = .ok true ↔
      IsMadeOf LetterClass.alpha.Admits s) := by
  -- kept closed, for its keys are computed by the tables of all letters
  generalize hcatalogue : builtin = catalogue
  intro hmade
  let e : Engine := ⟨"adhoc", [], catalogue, .ofPayload [], ⟨[], []⟩, default⟩
  have hkey : Spec.key ⟨"alpha", []⟩ = Rule.key LetterClass.alpha.name := rfl
  have haccepted : (e.dispatch none "name" (.text "a\n") ⟨"alpha", []⟩ {}).1 = .ok true := by
    rw [Engine.dispatch_letters (e := e) hcatalogue.symm hkey]
    decide
  exact absurd ((hmade e "a\n" rfl).mp haccepted) (by decide)

end PayloadCheck.Check
