import Mathlib.Algebra.Ring.Parity
import PayloadCheck.Proofs.Time.Letters

/-!
# Formats spelled sign by sign

A format in letters spells signs one after the other: characters that stand for themselves, and
letters of the table. A character may stand behind a backslash, and has to if it is a letter or a
backslash itself. What is spelled is translated sign by sign (`Spelled.directivesFor`), and what is
translated is spelled, but for a backslash at the end that takes nothing (`directivesFor_cases`).
Which characters a backslash takes is told by their surroundings alone: those with an odd number of
backslashes right before them (`mem_unescaped_iff`).
-/

namespace PayloadCheck.Time

open PayloadCheck.Text

/-! ### Backslashes -/

/-- The number of backslashes with which a text ends. -/
def backslashRun (before : List Char) : Nat := (before.reverse.takeWhile (· == '\\')).length

/-- What follows is taken as it is. -/
def Escapes (before : List Char) : Prop := Odd (backslashRun before)

theorem backslashRun_cons (c : Char) (before : List Char) :
    backslashRun (c :: before) =
      if backslashRun before = before.length ∧ c = '\\' then before.length + 1
      else backslashRun before := by
  unfold backslashRun
  rw [List.reverse_cons, List.takeWhile_append, List.length_reverse]
  by_cases hall : (before.reverse.takeWhile (· == '\\')).length = before.length
  · by_cases hc : c = '\\'
    · simp [hall, hc]
    · simp [hall, hc]
  · simp [hall]

theorem not_escapes_nil : ¬ Escapes [] := by
  simp [Escapes, backslashRun]

theorem escapes_backslash : Escapes ['\\'] := by
  simp [Escapes, backslashRun]

/-- A character other than a backslash ends a run. -/
theorem escapes_cons_iff {c : Char} (hc : c ≠ '\\') (before : List Char) :
    Escapes (c :: before) ↔ Escapes before := by
  rw [Escapes, backslashRun_cons, if_neg fun h => hc h.2, Escapes]

/-- A backslash and the character that it takes make no difference to what comes after. -/
theorem escapes_pair_iff (c : Char) (before : List Char) :
    Escapes ('\\' :: c :: before) ↔ Escapes before := by
  have hlength : (c :: before).length = before.length + 1 := rfl
  unfold Escapes
  rw [backslashRun_cons, backslashRun_cons, hlength]
  by_cases hrun : backslashRun before = before.length
  · by_cases hc : c = '\\'
    · simp [hrun, hc, Nat.odd_add_one]
    · simp [hrun, hc]
  · have hle : backslashRun before ≤ before.length := by
      simpa [backslashRun] using
        (List.takeWhile_sublist (l := before.reverse) (· == '\\')).length_le
    have hne : backslashRun before ≠ before.length + 1 := by omega
    simp [hrun, hne]

/-- A character of a format is taken by no backslash iff no odd number of them stands right before
it. -/
theorem mem_unescaped_iff {cs : List Char} {c : Char} :
    c ∈ unescaped cs ↔
      c ≠ '\\' ∧ ∃ before after, cs = before ++ c :: after ∧ ¬ Escapes before := by
  fun_induction unescaped cs with
  | case1 => simp
  | case2 =>
    refine ⟨fun hmem => absurd hmem List.not_mem_nil, ?_⟩
    rintro ⟨hc, before, after, hcs, -⟩
    rcases List.cons_eq_append_iff.mp hcs with ⟨-, hfirst⟩ | ⟨more, -, hcs⟩
    · exact absurd (List.cons.inj hfirst).1 hc
    · simp at hcs
  | case3 d rest ih =>
    rw [ih]
    refine and_congr_right fun hc => ?_
    constructor
    · rintro ⟨before, after, rfl, hnot⟩
      exact ⟨'\\' :: d :: before, after, rfl, (escapes_pair_iff d before).not.mpr hnot⟩
    · rintro ⟨before, after, hcs, hnot⟩
      rcases List.cons_eq_append_iff.mp hcs with ⟨-, hfirst⟩ | ⟨more, rfl, hmore⟩
      · exact absurd (List.cons.inj hfirst).1 hc
      rcases List.cons_eq_append_iff.mp hmore with ⟨rfl, -⟩ | ⟨before, rfl, hrest⟩
      · exact absurd escapes_backslash hnot
      · exact ⟨before, after, hrest, (escapes_pair_iff d before).not.mp hnot⟩
  | case4 d rest hlone hescape ih =>
    have hd : d ≠ '\\' := ne_backslash hlone hescape
    rw [List.mem_cons, ih]
    constructor
    · rintro (rfl | ⟨hc, before, after, rfl, hnot⟩)
      · exact ⟨hd, [], rest, rfl, not_escapes_nil⟩
      · exact ⟨hc, d :: before, after, rfl, (escapes_cons_iff hd before).not.mpr hnot⟩
    · rintro ⟨hc, before, after, hcs, hnot⟩
      rcases List.cons_eq_append_iff.mp hcs with ⟨-, hfirst⟩ | ⟨before, rfl, hrest⟩
      · exact Or.inl (List.cons.inj hfirst).1
      · exact Or.inr ⟨hc, before, after, hrest, (escapes_cons_iff hd before).not.mp hnot⟩

/-! ### Signs -/

/-- What stands in a format: a character that stands for itself, or a letter of the table and the
directive that it stands for. -/
inductive Sign where
  | literal (c : Char) (plain : c ≠ '%')
  | letter (c directive : Char) (known : formatLetters.lookup c = some directive)

namespace Sign

/-- A sign in a format with directives. -/
def translated : Sign → List Char
  | literal c _ => [c]
  | letter _ directive _ => ['%', directive]

/-- The ways in which a sign is written in a format in letters. -/
inductive Writes : Sign → List Char → Prop
  | escaped (c : Char) (plain : c ≠ '%') : Writes (.literal c plain) ['\\', c]
  | bare (c : Char) (plain : c ≠ '%') (noLetter : isLetter c = false) (noEscape : c ≠ '\\') :
      Writes (.literal c plain) [c]
  | letter (c directive : Char) (known : formatLetters.lookup c = some directive) :
      Writes (.letter c directive known) [c]

/-- Signs in a format with directives. -/
def allTranslated (signs : List Sign) : List Char := signs.flatMap translated

end Sign

/-- A format in letters that spells signs. -/
inductive Spelled : List Sign → List Char → Prop
  | nil : Spelled [] []
  | cons {sign : Sign} {own rest : List Char} {signs : List Sign} (first : sign.Writes own)
      (others : Spelled signs rest) : Spelled (sign :: signs) (own ++ rest)

/-- A letter that is not in the table. -/
def IsUnknownLetter (c : Char) : Prop := isLetter c = true ∧ formatLetters.lookup c = none

section Table

variable {c directive : Char} (known : formatLetters.lookup c = some directive)
include known

theorem entry_of_lookup : (c, directive) ∈ formatLetters := by
  obtain ⟨before, after, hsplit, -⟩ := List.lookup_eq_some_iff.mp known
  rw [hsplit]
  exact List.mem_append_right _ (List.mem_cons_self ..)

theorem known_letter_spec : c ≠ '\\' ∧ c ≠ '%' ∧ directive ≠ '%' := by
  have hall : ∀ entry ∈ formatLetters, entry.1 ≠ '\\' ∧ entry.1 ≠ '%' ∧ entry.2 ≠ '%' := by decide
  exact hall _ (entry_of_lookup known)

end Table

theorem lookup_of_not_letter {c : Char} (h : isLetter c = false) :
    formatLetters.lookup c = none := by
  have hall : ∀ entry ∈ formatLetters, isLetter entry.1 = true := by decide
  cases hlookup : formatLetters.lookup c with
  | none => rfl
  | some directive =>
    have hletter := hall _ (entry_of_lookup hlookup)
    rw [h] at hletter
    cases hletter

namespace Spelled

variable {signs more : List Sign} {cs rest : List Char}

theorem append (h : Spelled signs cs) (hrest : Spelled more rest) :
    Spelled (signs ++ more) (cs ++ rest) := by
  induction h with
  | nil => exact hrest
  | cons first _ ih =>
    rw [List.append_assoc]
    exact .cons first ih

/-- Behind signs that are spelled nothing is taken as it is. -/
theorem not_escapes (h : Spelled signs cs) : ¬ Escapes cs := by
  induction h with
  | nil => exact not_escapes_nil
  | @cons sign own rest signs first _ ih =>
    cases first with
    | escaped c plain => exact (escapes_pair_iff c rest).not.mpr ih
    | bare c plain noLetter noEscape => exact (escapes_cons_iff noEscape rest).not.mpr ih
    | letter c directive known =>
      exact (escapes_cons_iff (known_letter_spec known).1 rest).not.mpr ih

theorem plain (h : Spelled signs cs) : '%' ∉ cs := by
  induction h with
  | nil => exact List.not_mem_nil
  | @cons sign own rest signs first _ ih =>
    rw [List.mem_append, not_or]
    refine ⟨?_, ih⟩
    cases first with
    | escaped c plain => simpa using plain.symm
    | bare c plain => simpa using plain.symm
    | letter c directive known => simpa using (known_letter_spec known).2.1.symm

/-- Signs are translated one by one, whatever follows them. -/
theorem directivesFor_append (h : Spelled signs cs) (rest : List Char) :
    directivesFor (cs ++ rest) =
      (directivesFor rest).map fun ds => Sign.allTranslated signs ++ ds := by
  induction h with
  | nil => cases hrest : directivesFor rest <;> simp [hrest, Except.map, Sign.allTranslated]
  | @cons sign own others signs first _ ih =>
    have hmap : ∀ write : List Char → List Char,
        (directivesFor (others ++ rest)).map write =
          (directivesFor rest).map fun ds => write (Sign.allTranslated signs ++ ds) := by
      intro write
      rw [ih]
      cases directivesFor rest <;> rfl
    rw [List.append_assoc]
    cases first with
    | escaped c plain => exact (directivesFor_escape c _).trans (hmap _)
    | bare c plain noLetter noEscape =>
      rw [List.singleton_append, directivesFor_cons noEscape, lookup_of_not_letter noLetter]
      simp only [noLetter, Bool.false_eq_true, if_false]
      exact hmap _
    | letter c directive known =>
      rw [List.singleton_append, directivesFor_cons (known_letter_spec known).1, known]
      exact hmap _

theorem directivesFor (h : Spelled signs cs) :
    directivesFor cs = .ok (Sign.allTranslated signs) := by
  have hnil := h.directivesFor_append []
  simpa [Time.directivesFor, Except.map] using hnil

end Spelled

/-! ### What is translated -/

theorem allTranslated_cons (sign : Sign) (signs : List Sign) :
    Sign.allTranslated (sign :: signs) = sign.translated ++ Sign.allTranslated signs := rfl

/-- A percent sign of what is translated begins the directive of a letter, and what stands before
and behind it comes from what stands before and behind the letter. -/
theorem Spelled.letter_of_mark {signs : List Sign} {cs before after : List Char}
    (h : Spelled signs cs) (hmark : Sign.allTranslated signs = before ++ '%' :: after) :
    ∃ front back csFront csBack c directive known,
      signs = front ++ .letter c directive known :: back ∧ cs = csFront ++ c :: csBack ∧
        Spelled front csFront ∧ Spelled back csBack ∧
          before = Sign.allTranslated front ∧ after = directive :: Sign.allTranslated back := by
  induction h generalizing before with
  | nil => simp [Sign.allTranslated] at hmark
  | @cons sign own rest signs first others ih =>
    -- the mark stands in the translation of a later sign
    have hlater : ∀ {more}, before = sign.translated ++ more →
        Sign.allTranslated signs = more ++ '%' :: after →
        ∃ front back csFront csBack c directive known,
          sign :: signs = front ++ .letter c directive known :: back ∧
            own ++ rest = csFront ++ c :: csBack ∧ Spelled front csFront ∧ Spelled back csBack ∧
              before = Sign.allTranslated front ∧
                after = directive :: Sign.allTranslated back := by
      intro more hbefore hmore
      obtain ⟨front, back, csFront, csBack, c, directive, known, rfl, rfl, hfront, hback, rfl,
        rfl⟩ := ih hmore
      exact ⟨sign :: front, back, own ++ csFront, csBack, c, directive, known, rfl,
        (List.append_assoc own csFront _).symm, .cons first hfront, hback, hbefore, rfl⟩
    rw [allTranslated_cons] at hmark
    cases sign with
    | literal c plain =>
      rcases List.cons_eq_append_iff.mp hmark with ⟨-, hc⟩ | ⟨more, hbefore, hmore⟩
      · exact absurd (List.cons.inj hc).1.symm plain
      · exact hlater hbefore hmore
    | letter c directive known =>
      rcases List.cons_eq_append_iff.mp hmark with ⟨hbefore, hc⟩ | ⟨more, hbefore, hmore⟩
      · cases first
        exact ⟨[], signs, [], rest, c, directive, known, rfl, rfl, .nil, others, hbefore,
          (List.cons.inj hc).2⟩
      rcases List.cons_eq_append_iff.mp hmore with ⟨-, hc⟩ | ⟨later, rfl, hlast⟩
      · exact absurd (List.cons.inj hc).1.symm (known_letter_spec known).2.2
      · exact hlater hbefore hlast

/-- A format without percent signs spells signs as far as it is translated: to its end, to a
backslash at its end, or to the first unknown letter. -/
theorem exists_spelled_front {cs : List Char} (hplain : '%' ∉ cs) :
    ∃ signs front rest, cs = front ++ rest ∧ Spelled signs front ∧
      (rest = [] ∨ rest = ['\\'] ∨ ∃ c after, rest = c :: after ∧ IsUnknownLetter c) := by
  fun_induction unescaped cs with
  | case1 => exact ⟨[], [], [], rfl, .nil, Or.inl rfl⟩
  | case2 => exact ⟨[], [], ['\\'], rfl, .nil, Or.inr (Or.inl rfl)⟩
  | case3 c more ih =>
    simp only [List.mem_cons, not_or] at hplain
    obtain ⟨signs, front, rest, rfl, hfront, hrest⟩ := ih hplain.2.2
    have hc : c ≠ '%' := Ne.symm hplain.2.1
    exact ⟨.literal c hc :: signs, '\\' :: c :: front, rest, rfl,
      .cons (.escaped c hc) hfront, hrest⟩
  | case4 c more hlone hescape ih =>
    have hc : c ≠ '\\' := ne_backslash hlone hescape
    simp only [List.mem_cons, not_or] at hplain
    obtain ⟨signs, front, rest, rfl, hfront, hrest⟩ := ih hplain.2
    cases hlookup : formatLetters.lookup c with
    | some directive =>
      exact ⟨.letter c directive hlookup :: signs, c :: front, rest, rfl,
        .cons (.letter c directive hlookup) hfront, hrest⟩
    | none =>
      cases hletter : isLetter c with
      | true => exact ⟨[], [], _, rfl, .nil, Or.inr (Or.inr ⟨c, _, rfl, hletter, hlookup⟩)⟩
      | false =>
        have hplain' : c ≠ '%' := Ne.symm hplain.1
        exact ⟨.literal c hplain' :: signs, c :: front, rest, rfl,
          .cons (.bare c hplain' hletter hc) hfront, hrest⟩

theorem directivesFor_unknown {c : Char} (h : IsUnknownLetter c) (after : List Char) :
    directivesFor (c :: after) = .error c := by
  have hc : c ≠ '\\' := by
    rintro rfl
    cases h.1
  rw [directivesFor_cons hc, h.2]
  simp [h.1]

/-- A format without percent signs is translated as the signs that it spells, up to a backslash at
its end, or is refused for the first unknown letter. -/
theorem directivesFor_cases {cs : List Char} (hplain : '%' ∉ cs) :
    (∃ signs front rest, cs = front ++ rest ∧ Spelled signs front ∧ (rest = [] ∨ rest = ['\\']) ∧
      directivesFor cs = .ok (Sign.allTranslated signs)) ∨
    ∃ signs before c after, cs = before ++ c :: after ∧ Spelled signs before ∧
      IsUnknownLetter c ∧ directivesFor cs = .error c := by
  obtain ⟨signs, front, rest, rfl, hfront, hrest⟩ := exists_spelled_front hplain
  have htranslated := hfront.directivesFor_append rest
  rcases hrest with rfl | rfl | ⟨c, after, rfl, hunknown⟩
  · refine Or.inl ⟨signs, front, [], rfl, hfront, Or.inl rfl, ?_⟩
    simpa [directivesFor, Except.map] using htranslated
  · refine Or.inl ⟨signs, front, _, rfl, hfront, Or.inr rfl, ?_⟩
    simpa [directivesFor, Except.map] using htranslated
  · refine Or.inr ⟨signs, front, c, after, rfl, hfront, hunknown, ?_⟩
    rw [htranslated, directivesFor_unknown hunknown]
    rfl

/-- The fault of a format with an unknown letter. -/
def unsupportedLetter (format : String) (c : Char) : Fault :=
  let letter := String.ofList [c]
  let shown := quoted format
  .malformedRule "date_format" s!"Unsupported format character '{letter}' in {shown}"

theorem formatOfLetters_of_plain {format : String} (hplain : '%' ∉ format.toList) :
    formatOfLetters format = match directivesFor format.toList with
      | .ok cs => .ok (String.ofList cs)
      | .error c => .error (unsupportedLetter format c) := by
  have hmark : format.toList.contains '%' = false := by simpa using hplain
  simp only [formatOfLetters, hmark, Bool.false_eq_true, if_false]
  rfl

/-- A format has an unknown letter that no backslash takes. -/
theorem hasUnknownLetter_iff {format : String} (hplain : '%' ∉ format.toList) :
    HasUnknownLetter format ↔
      ∃ before c after, format.toList = before ++ c :: after ∧ ¬ Escapes before ∧
        IsUnknownLetter c := by
  constructor
  · rintro ⟨-, c, hc, hunknown⟩
    obtain ⟨-, before, after, hformat, hnot⟩ := mem_unescaped_iff.mp hc
    exact ⟨before, c, after, hformat, hnot, hunknown⟩
  · rintro ⟨before, c, after, hformat, hnot, hunknown⟩
    refine ⟨hplain, c, mem_unescaped_iff.mpr ⟨?_, before, after, hformat, hnot⟩, hunknown⟩
    rintro rfl
    cases hunknown.1

/-- **Formats in letters are translated sign by sign.** Where a format spells characters and letters
    of the table, it stands for the characters themselves and the directives of the letters; and
    every percent sign in that begins the directive of a letter that no backslash takes. A format
    without percent signs is a malformed rule iff it has a letter that is not in the table with no
    odd number of backslashes right before it, and the fault names the first such letter; any other
    is translated as the signs that it spells, a backslash at its end left aside. -/
theorem formats_are_translated :
    (∀ signs cs, Spelled signs cs →
      formatOfLetters (String.ofList cs) = .ok (String.ofList (Sign.allTranslated signs)) ∧
      ∀ before after, Sign.allTranslated signs = before ++ '%' :: after →
        ∃ front back csFront csBack c directive known,
          signs = front ++ .letter c directive known :: back ∧ cs = csFront ++ c :: csBack ∧
            Spelled front csFront ∧ Spelled back csBack ∧ ¬ Escapes csFront ∧
              before = Sign.allTranslated front ∧
                after = directive :: Sign.allTranslated back) ∧
    ∀ format : String, '%' ∉ format.toList →
      ((∃ rule detail, formatOfLetters format = .error (.malformedRule rule detail)) ↔
        ∃ before c after, format.toList = before ++ c :: after ∧ ¬ Escapes before ∧
          IsUnknownLetter c) ∧
      (∀ fault, formatOfLetters format = .error fault →
        ∃ signs before c after, format.toList = before ++ c :: after ∧ Spelled signs before ∧
          IsUnknownLetter c ∧ fault = unsupportedLetter format c) ∧
      ∀ directives, formatOfLetters format = .ok directives →
        ∃ signs front rest, format.toList = front ++ rest ∧ Spelled signs front ∧
          (rest = [] ∨ rest = ['\\']) ∧ directives = String.ofList (Sign.allTranslated signs) := by
  refine ⟨fun signs cs h => ⟨?_, fun before after hmark => ?_⟩, fun format hplain => ⟨?_, ?_, ?_⟩⟩
  · rw [formatOfLetters_of_plain (by simpa using h.plain), String.toList_ofList, h.directivesFor]
  · obtain ⟨front, back, csFront, csBack, c, directive, known, hsigns, hcs, hfront, hback, hbefore,
      hafter⟩ := h.letter_of_mark hmark
    exact ⟨front, back, csFront, csBack, c, directive, known, hsigns, hcs, hfront, hback,
      hfront.not_escapes, hbefore, hafter⟩
  · rw [← hasUnknownLetter_iff hplain]
    rcases formatOfLetters_cases format with ⟨hunknown, detail, hfault⟩ |
      ⟨hknown, directives, htranslated⟩
    · exact ⟨fun _ => hunknown, fun _ => ⟨_, detail, hfault⟩⟩
    · refine ⟨?_, fun hunknown => absurd hunknown hknown⟩
      rintro ⟨rule, detail, hfault⟩
      cases htranslated.symm.trans hfault
  · intro fault hfault
    rw [formatOfLetters_of_plain hplain] at hfault
    rcases directivesFor_cases hplain with ⟨signs, front, rest, -, -, -, hds⟩ |
      ⟨signs, before, c, after, hformat, hbefore, hunknown, hds⟩
    · rw [hds] at hfault
      cases hfault
    · rw [hds] at hfault
      exact ⟨signs, before, c, after, hformat, hbefore, hunknown, (Except.error.inj hfault).symm⟩
  · intro directives htranslated
    rw [formatOfLetters_of_plain hplain] at htranslated
    rcases directivesFor_cases hplain with ⟨signs, front, rest, hformat, hfront, hrest, hds⟩ |
      ⟨signs, before, c, after, -, -, -, hds⟩
    · rw [hds] at htranslated
      exact ⟨signs, front, rest, hformat, hfront, hrest, (Except.ok.inj htranslated).symm⟩
    · rw [hds] at htranslated
      cases htranslated

/-- Three backslashes take one another and the letter behind them, two leave it, and one at the end
takes nothing. -/
theorem formats_are_translated_backslashes :
    let signs : List Sign :=
      [.letter 'Y' 'Y' rfl, .literal '\\' (by decide), .literal 'Y' (by decide),
        .literal '-' (by decide), .letter 'd' 'd' rfl]
    Spelled signs "Y\\\\\\Y-d".toList ∧
      formatOfLetters "Y\\\\\\Y-d" = .ok "%Y\\Y-%d" ∧
      (∃ rule detail, formatOfLetters "Y\\\\B" = .error (.malformedRule rule detail)) ∧
      ∃ signs front rest, "\\B\\".toList = front ++ rest ∧ Spelled signs front ∧
        (rest = [] ∨ rest = ['\\']) ∧ "B" = String.ofList (Sign.allTranslated signs) := by
  intro signs
  have hspelled : Spelled signs "Y\\\\\\Y-d".toList :=
    .cons (.letter _ _ _) (.cons (.escaped _ _) (.cons (.escaped _ _)
      (.cons (.bare _ _ rfl (by decide)) (.cons (.letter _ _ _) .nil))))
  obtain ⟨hletters, hformats⟩ := formats_are_translated
  refine ⟨hspelled, (hletters signs _ hspelled).1, ?_, ?_⟩
  · refine (hformats "Y\\\\B" (by decide)).1.mpr ⟨['Y', '\\', '\\'], 'B', [], rfl, ?_, rfl, rfl⟩
    rw [escapes_cons_iff (by decide), escapes_pair_iff]
    exact not_escapes_nil
  · exact (hformats "\\B\\" (by decide)).2.2 "B" (by decide)

end PayloadCheck.Time
