import Mathlib.Data.List.Nodup
import PayloadCheck.Proofs.Time.Rendering
import PayloadCheck.Time.Letters

/-!
# Formats in letters

A format in letters is translated unless it has a letter that is not in the table
(`formatOfLetters_cases`), and its letters name the directives that they stand for, one after the
other (`exists_ofChars?_directivesFor`). What is translated is a format of directives in any case,
but it is of use only if it names none of them twice (`repeated?_eq_none_iff`).
-/

namespace PayloadCheck.Time

open PayloadCheck.Text

/-! ### Directives named twice -/

namespace Format

theorem repeated?_eq_none_iff {f : Format} {seen : List (Directive × Nat)} {group place : Nat} :
    repeated? seen group place f = none ↔
      f.directives.Nodup ∧ ∀ d ∈ f.directives, seen.lookup d = none := by
  induction f generalizing seen group place with
  | nil => simp [repeated?, directives]
  | cons item rest ih =>
    cases item with
    | literal c => exact ih
    | blanks => exact ih
    | field d =>
      have hcons : ∀ e, ((d, group) :: seen).lookup e = none ↔ d ≠ e ∧ seen.lookup e = none := by
        intro e
        rw [List.lookup_cons]
        by_cases heq : e = d
        · subst heq
          simp only [beq_self_eq_true, reduceCtorEq, ne_eq, not_true_eq_false, false_and]
        · rw [beq_false_of_ne heq]
          exact ⟨fun h => ⟨Ne.symm heq, h⟩, And.right⟩
      have hdirectives : directives (.field d :: rest) = d :: directives rest := rfl
      rw [hdirectives, repeated?, List.nodup_cons, List.forall_mem_cons]
      cases hseen : seen.lookup d with
      | some first =>
        refine ⟨nofun, fun ⟨_, hd, _⟩ => ?_⟩
        cases hd
      | none =>
        simp only [ih, hcons]
        constructor
        · rintro ⟨hnodup, hnew⟩
          exact ⟨⟨fun hd => (hnew d hd).1 rfl, hnodup⟩, trivial, fun e he => (hnew e he).2⟩
        · rintro ⟨⟨hd, hnodup⟩, -, hnew⟩
          exact ⟨hnodup, fun e he => ⟨fun heq => hd (heq ▸ he), hnew e he⟩⟩

theorem exists_repeated?_iff {f : Format} :
    (∃ fault, repeated? [] 1 0 f = some fault) ↔ ¬ f.directives.Nodup := by
  rw [← Option.ne_none_iff_exists', ne_eq, repeated?_eq_none_iff]
  simp

theorem read_eq_told {f : Format} (h : f.directives.Nodup) (cs : List Char) :
    f.read (String.ofList cs) = .ok (f.told cs) := by
  have hrepeated : repeated? [] 1 0 f = none := repeated?_eq_none_iff.mpr ⟨h, fun _ _ => rfl⟩
  simp only [read, hrepeated, String.toList_ofList]
  rfl

end Format

/-! ### Letter by letter -/

/-- The characters of a format in letters that no backslash takes as they are. -/
def unescaped : List Char → List Char
  | [] => []
  | ['\\'] => []
  | '\\' :: _ :: rest => unescaped rest
  | c :: rest => c :: unescaped rest

/-- The directive that a letter stands for. -/
def letterDirective? (c : Char) : Option Directive :=
  (formatLetters.lookup c).bind Directive.ofLetter?

/-- The directives that the letters of a format stand for, in their order. -/
def standsFor (cs : List Char) : List Directive := (unescaped cs).filterMap letterDirective?

/-- A format in letters with a letter, behind no backslash, that is not in the table. -/
def HasUnknownLetter (format : String) : Prop :=
  '%' ∉ format.toList ∧
    ∃ c ∈ unescaped format.toList, isLetter c = true ∧ formatLetters.lookup c = none

instance (format : String) : Decidable (HasUnknownLetter format) :=
  @instDecidableAnd _ _ _ (List.decidableBEx _ _)

/-- A format of which two directives are the same. -/
def NamesTwice (format : String) : Prop :=
  ∃ directives f, formatOfLetters format = .ok directives ∧
    Format.ofChars? directives.toList = some f ∧ ¬ f.directives.Nodup

/-- Every letter of the table stands for one directive. -/
theorem ofLetter?_of_lookup {c letter : Char} (h : formatLetters.lookup c = some letter) :
    ∃ d, letterDirective? c = some d ∧ Format.ofLetter? letter = some [.field d] := by
  have hall : ∀ entry ∈ formatLetters, ∃ d ∈ Directive.all,
      Directive.ofLetter? entry.2 = some d ∧ Format.ofLetter? entry.2 = some [.field d] := by
    decide
  obtain ⟨before, after, hsplit, -⟩ := List.lookup_eq_some_iff.mp h
  have hmem : (c, letter) ∈ formatLetters := by
    rw [hsplit]
    exact List.mem_append_right _ (List.mem_cons_self ..)
  obtain ⟨d, -, hd, hitems⟩ := hall (c, letter) hmem
  refine ⟨d, ?_, hitems⟩
  rw [letterDirective?, h, Option.bind_some, hd]

theorem exists_ofChars?_cons {c : Char} (hc : c ≠ '%') {cs : List Char} {f : Format}
    (h : Format.ofChars? cs = some f) :
    ∃ g, Format.ofChars? (c :: cs) = some g ∧ g.directives = f.directives := by
  rw [Format.ofChars?_cons hc, h]
  split
  · split
    · exact ⟨f, rfl, rfl⟩
    · exact ⟨.blanks :: f, rfl, rfl⟩
  · exact ⟨.literal c :: f, rfl, rfl⟩

theorem directivesFor_escape (c : Char) (rest : List Char) :
    directivesFor ('\\' :: c :: rest) = (directivesFor rest).map (c :: ·) := by
  rw [directivesFor]
  cases directivesFor rest <;> rfl

section Unescaped

variable {c : Char} (hc : c ≠ '\\') (rest : List Char)
include hc

theorem unescaped_cons : unescaped (c :: rest) = c :: unescaped rest := by
  rw [unescaped]
  · rintro rfl
    exact absurd rfl hc
  · rintro _ _ rfl
    exact absurd rfl hc

theorem directivesFor_cons : directivesFor (c :: rest) = match formatLetters.lookup c with
    | some letter => (directivesFor rest).map fun ds => '%' :: letter :: ds
    | none => if isLetter c then .error c else (directivesFor rest).map (c :: ·) := by
  rw [directivesFor]
  · cases formatLetters.lookup c with
    | none =>
      cases directivesFor rest <;> rfl
    | some letter =>
      cases directivesFor rest <;> rfl
  · rintro rfl
    exact absurd rfl hc
  · rintro _ _ rfl
    exact absurd rfl hc

end Unescaped

/-- What stands first where a format is neither a lone backslash nor begins with an escape. -/
theorem ne_backslash {c : Char} {rest : List Char} (hlone : c = '\\' → rest = [] → False)
    (hescape : ∀ d more, c = '\\' → rest = d :: more → False) : c ≠ '\\' := by
  intro hc
  cases rest with
  | nil => exact hlone hc rfl
  | cons d more => exact hescape d more hc rfl

theorem map_eq_ok_iff {write : List Char → List Char} {step : Except Char (List Char)}
    {ds : List Char} : step.map write = .ok ds ↔ ∃ ds', step = .ok ds' ∧ write ds' = ds := by
  cases step <;> simp [Except.map]

/-- What the letters of a format without percent signs are translated to is a format, with the
directives that they stand for. -/
theorem exists_ofChars?_directivesFor {cs ds : List Char} (hcs : '%' ∉ cs)
    (h : directivesFor cs = .ok ds) :
    ∃ f, Format.ofChars? ds = some f ∧ f.directives = standsFor cs := by
  -- an escaped character and one that is no letter stay, and neither is a percent sign
  fun_induction unescaped cs generalizing ds with
  | case1 =>
    cases h
    exact ⟨[], rfl, rfl⟩
  | case2 =>
    cases h
    exact ⟨[], rfl, rfl⟩
  | case3 c rest ih =>
    simp only [List.mem_cons, not_or] at hcs
    rw [directivesFor_escape] at h
    obtain ⟨ds', hds', rfl⟩ := map_eq_ok_iff.mp h
    obtain ⟨f, hf, hnamed⟩ := ih hcs.2.2 hds'
    obtain ⟨g, hg, hsame⟩ := exists_ofChars?_cons (Ne.symm hcs.2.1) hf
    exact ⟨g, hg, hsame.trans hnamed⟩
  | case4 c rest hlone hescape ih =>
    have hc : c ≠ '\\' := ne_backslash hlone hescape
    simp only [List.mem_cons, not_or] at hcs
    rw [directivesFor_cons hc] at h
    cases hlookup : formatLetters.lookup c with
    | some letter =>
      simp only [hlookup] at h
      obtain ⟨ds', hds', rfl⟩ := map_eq_ok_iff.mp h
      obtain ⟨f, hf, hnamed⟩ := ih hcs.2 hds'
      obtain ⟨d, hd, hitems⟩ := ofLetter?_of_lookup hlookup
      refine ⟨.field d :: f, ?_, ?_⟩
      · rw [Format.ofChars?_mark, hitems, hf]
        rfl
      · rw [standsFor, unescaped_cons hc, List.filterMap_cons_some hd, ← standsFor, ← hnamed]
        rfl
    | none =>
      simp only [hlookup] at h
      split at h
      · cases h
      · obtain ⟨ds', hds', rfl⟩ := map_eq_ok_iff.mp h
        obtain ⟨f, hf, hnamed⟩ := ih hcs.2 hds'
        obtain ⟨g, hg, hsame⟩ := exists_ofChars?_cons (Ne.symm hcs.1) hf
        have hd : letterDirective? c = none := by rw [letterDirective?, hlookup, Option.bind_none]
        refine ⟨g, hg, ?_⟩
        rw [hsame, hnamed, standsFor, standsFor, unescaped_cons hc, List.filterMap_cons_none hd]

/-- A format is translated iff its letters are in the table, but for those behind backslashes. -/
theorem exists_directivesFor_iff (cs : List Char) : (∃ ds, directivesFor cs = .ok ds) ↔
    ∀ c ∈ unescaped cs, isLetter c = true → formatLetters.lookup c ≠ none := by
  have hmap : ∀ {step : Except Char (List Char)} {write : List Char → List Char},
      (∃ ds, step.map write = .ok ds) ↔ ∃ ds, step = .ok ds := by
    intro step write
    cases step <;> simp [Except.map]
  fun_induction unescaped cs with
  | case1 => exact ⟨fun _ => nofun, fun _ => ⟨_, rfl⟩⟩
  | case2 => exact ⟨fun _ => nofun, fun _ => ⟨_, rfl⟩⟩
  | case3 c rest ih =>
    rw [directivesFor_escape, hmap]
    exact ih
  | case4 c rest hlone hescape ih =>
    rw [directivesFor_cons (ne_backslash hlone hescape), List.forall_mem_cons]
    cases hlookup : formatLetters.lookup c with
    | some letter => simp [hmap, ih]
    | none =>
      cases hletter : isLetter c with
      | false => simp [hmap, ih]
      | true => simp

/-! ### Whole formats -/

/-- A format is refused as a malformed rule for an unknown letter, and for nothing else. -/
theorem formatOfLetters_cases (format : String) :
    (HasUnknownLetter format ∧
      ∃ detail, formatOfLetters format = .error (.malformedRule "date_format" detail)) ∨
    (¬ HasUnknownLetter format ∧ ∃ directives, formatOfLetters format = .ok directives) := by
  unfold formatOfLetters
  split
  · next hmark =>
    refine Or.inr ⟨fun hunknown => hunknown.1 ?_, format, rfl⟩
    exact List.contains_iff_mem.mp hmark
  · next hmark =>
    have hplain : '%' ∉ format.toList := fun hmem => hmark (List.contains_iff_mem.mpr hmem)
    have htranslated := exists_directivesFor_iff format.toList
    split
    · next ds hds =>
      refine Or.inr ⟨?_, _, rfl⟩
      rintro ⟨-, c, hc, hletter, hlookup⟩
      exact htranslated.mp ⟨ds, hds⟩ c hc hletter hlookup
    · next c hds =>
      refine Or.inl ⟨⟨hplain, ?_⟩, _, rfl⟩
      by_contra hnone
      simp only [not_exists, not_and] at hnone
      obtain ⟨ds, hds'⟩ := htranslated.mpr hnone
      cases hds.symm.trans hds'

/-- A format in letters that are all known names a directive twice where two of them stand for the
same one. -/
theorem namesTwice_iff_of_letters {format : String} (hplain : '%' ∉ format.toList)
    (hknown : ¬ HasUnknownLetter format) :
    NamesTwice format ↔ ¬ (standsFor format.toList).Nodup := by
  have hmark : format.toList.contains '%' = false := by simpa using hplain
  obtain ⟨ds, hds⟩ : ∃ ds, directivesFor format.toList = .ok ds := by
    refine (exists_directivesFor_iff _).mpr fun c hc hletter hlookup => ?_
    exact hknown ⟨hplain, c, hc, hletter, hlookup⟩
  obtain ⟨f, hf, hnamed⟩ := exists_ofChars?_directivesFor hplain hds
  have htranslated : formatOfLetters format = .ok (String.ofList ds) := by
    simp only [formatOfLetters, hmark, hds, Bool.false_eq_true, if_false]
  rw [← hnamed]
  constructor
  · rintro ⟨directives, g, hdirectives, hg, htwice⟩
    cases htranslated.symm.trans hdirectives
    rw [String.toList_ofList, hf] at hg
    cases hg
    exact htwice
  · intro htwice
    exact ⟨_, f, htranslated, by rw [String.toList_ofList, hf], htwice⟩

end PayloadCheck.Time
