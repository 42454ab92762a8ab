import PayloadCheck.Proofs.Check.Dates
import PayloadCheck.Proofs.Check.Strays
import PayloadCheck.Proofs.Time.Layouts

/-!
# The rule on date formats

The rule `date_format` accepts every moment that is written in its own format, if that is laid out
as fields with separators (`date_format_accepts_rendered`). Whether it decides at all depends on the
format alone: an unknown letter makes it a malformed rule, and a directive that is named twice lets
it fail with a fault of the pattern (`date_format_decides_or_fails`).
-/

namespace PayloadCheck.Check

open PayloadCheck.Presence PayloadCheck.Rule PayloadCheck.Time PayloadCheck.Value

section Dispatch

variable {resolves : List Char → Bool} {e : Engine} {rule : Spec}
  (hcatalogue : e.catalogue = builtinFor resolves) {format : String}
include hcatalogue

/-- A text is judged by the first parameter. -/
theorem dispatch_dateFormat (hkey : rule.key = Rule.key "date_format") {more : List String}
    (hps : rule.parameters = format :: more) (verifier : Option Verifier) (field s : String)
    (j : Journal) :
    e.dispatch verifier field (.text s) rule j = (hasDateFormat (.text s) format, j) := by
  have harity : 1 ≤ rule.parameters.length := by
    rw [hps]
    exact Nat.succ_le_succ (Nat.zero_le _)
  have hmem : dateChecks[1] ∈ builtinChecks resolves := by
    simp only [builtinChecks, List.mem_append]
    exact Or.inl (Or.inl (Or.inr (List.getElem_mem _)))
  rw [Engine.dispatch_builtin hcatalogue hmem hkey harity, hps]
  rfl

theorem judges_dateFormat {s : String} {passes : Bool}
    (hdecides : hasDateFormat (.text s) format = .ok passes) {t : String}
    (hwritten : WritesParameters "date_format" [format] t) (verifier : Option Verifier)
    (field : String) : e.Judges verifier field (.text s) ("date_format:" ++ t) passes := by
  have hascii : IsAscii "date_format" := isAscii_of_all rfl
  have hkey : Spec.key ⟨identifier "date_format", [format]⟩ = Rule.key "date_format" := by
    rw [Spec.key, key_eq_fold (isAscii_identifier hascii), key_eq_fold hascii,
      fold_identifier hascii]
  have hread : readToken ("date_format" ++ ":" ++ t) =
      .ok (some ⟨identifier "date_format", [format]⟩) :=
    readToken_of_writes (by decide) (by decide) hwritten
  refine ⟨_, hread, fun j => ?_⟩
  rw [dispatch_dateFormat hcatalogue hkey rfl, hdecides]

end Dispatch

/-! ### Moments in their own format -/

theorem hasDateFormat_rendered (f : DateLayout) {m : Moment} (h : m.isValid = true) :
    hasDateFormat (.text (f.rendered m)) f.text = .ok true := by
  simp only [hasDateFormat, f.formatOfLetters_text, f.readBy_rendered h, bind, Except.bind]
  rfl

/-- **What is written in a format satisfies the rule on it.** A format in letters has year, month
    and day and perhaps hour, minute and second, each once and in any order, with separators
    between them. Every moment that is written in it is accepted by `date_format` with that format,
    however the rule is given; and it is read as far as the format shows it, so that no two days are
    taken for the same. -/
theorem date_format_accepts_rendered {resolves : List Char → Bool} {e : Engine}
    (hcatalogue : e.catalogue = builtinFor resolves) (f : DateLayout) {m : Moment}
    (h : m.isValid = true) (verifier : Option Verifier) (field : String) :
    (∀ (rule : Spec) (more : List String), rule.key = Rule.key "date_format" →
      rule.parameters = f.text :: more →
        ∀ j, e.dispatch verifier field (.text (f.rendered m)) rule j = (.ok true, j)) ∧
    (∀ t, WritesParameters "date_format" [f.text] t →
      e.Judges verifier field (.text (f.rendered m)) ("date_format:" ++ t) true) ∧
    ∃ directives, formatOfLetters f.text = .ok directives ∧
      readBy directives (f.rendered m) = .ok (some (f.kept m)) := by
  have hpasses := hasDateFormat_rendered f h
  refine ⟨?_, ?_, _, f.formatOfLetters_text, f.readBy_rendered h⟩
  · intro rule more hkey hps j
    rw [dispatch_dateFormat hcatalogue hkey hps, hpasses]
  · intro t hwritten
    exact judges_dateFormat hcatalogue hpasses hwritten verifier field

/-- A leap day in a format with a comma, which has to be wrapped in a written rule. -/
theorem date_format_accepts_rendered_leap :
    let e : Engine := ⟨"adhoc", [], builtin, .ofPayload [], ⟨[], []⟩, default⟩
    e.Judges none "at" (.text "29, 02/2024 - 23:05") "date_format:\"d, m/Y - H:i\"" true ∧
      formatOfLetters "d, m/Y - H:i" = .ok "%d, %m/%Y - %H:%M" ∧
      readBy "%d, %m/%Y - %H:%M" "29, 02/2024 - 23:05" =
        .ok (some ⟨⟨2024, 2, 29⟩, 23, 5, 0, 0, none⟩) := by
  -- kept closed, for its keys are computed by the tables of all letters
  generalize hcatalogue : builtin = catalogue
  intro e
  let f : DateLayout := {
    pieces := [([], 'd'), ([',', ' '], 'm'), (['/'], 'Y'), ([' ', '-', ' '], 'H'), ([':'], 'i')]
    separated := by
      simp only [List.forall_mem_cons, List.not_mem_nil, false_imp_iff, implies_true, and_true]
      decide
    known := by decide
    once := by decide
    day := by simp }
  let m : Moment := ⟨⟨2024, 2, 29⟩, 23, 5, 59, 0, none⟩
  have htext : f.text = "d, m/Y - H:i" := by decide
  have hrendered : f.rendered m = "29, 02/2024 - 23:05" := by decide
  have hwritten : WritesParameters "date_format" [f.text] "\"d, m/Y - H:i\"" := by
    have hrow : Row.Written ([f.text].map String.toList) "\"d, m/Y - H:i\"".toList := by
      rw [htext]
      exact ⟨.last .wrapped, by decide⟩
    exact .row (by decide) hrow (by rw [htext]; decide)
  obtain ⟨-, htoken, directives, hletters, hread⟩ :=
    date_format_accepts_rendered (e := e) hcatalogue.symm f (m := m) (by decide) none "at"
  have hjudges := htoken _ hwritten
  rw [htext] at hletters
  have hdirectives : directives = "%d, %m/%Y - %H:%M" := by
    have hcomputed : formatOfLetters "d, m/Y - H:i" = .ok "%d, %m/%Y - %H:%M" := by decide
    exact Except.ok.inj (hletters.symm.trans hcomputed)
  rw [hdirectives] at hletters hread
  rw [hrendered] at hjudges hread
  exact ⟨hjudges, hletters, hread⟩

/-! ### Formats that decide nothing -/

/-- Over a text a format with an unknown letter is a malformed rule, one that names a directive twice
fails, and any other decides. -/
theorem hasDateFormat_cases (format s : String) :
    (HasUnknownLetter format ∧ ¬ NamesTwice format ∧
      ∃ detail, hasDateFormat (.text s) format = .error (.malformedRule "date_format" detail)) ∨
    (¬ HasUnknownLetter format ∧ NamesTwice format ∧
      ∃ detail, hasDateFormat (.text s) format = .error (.pattern detail)) ∨
    (¬ HasUnknownLetter format ∧ ¬ NamesTwice format ∧
      ∃ passes, hasDateFormat (.text s) format = .ok passes) := by
  rcases formatOfLetters_cases format with ⟨hunknown, detail, hletters⟩ |
    ⟨hknown, directives, hletters⟩
  · refine Or.inl ⟨hunknown, ?_, detail, by rw [hasDateFormat, hletters]; rfl⟩
    rintro ⟨directives, -, hdirectives, -⟩
    cases hletters.symm.trans hdirectives
  refine Or.inr ?_
  cases hread : readBy directives s with
  | error fault =>
    obtain ⟨f, hf, hrepeated⟩ := readBy_eq_error_iff.mp hread
    obtain ⟨detail, rfl⟩ := repeated?_eq_some hrepeated
    have htwice := Format.exists_repeated?_iff.mp ⟨_, hrepeated⟩
    refine Or.inl ⟨hknown, ⟨directives, f, hletters, hf, htwice⟩, detail, ?_⟩
    simp only [hasDateFormat, hletters, hread, bind, Except.bind]
  | ok moment? =>
    refine Or.inr ⟨hknown, ?_, moment?.isSome, ?_⟩
    · rintro ⟨directives', f, hdirectives, hf, htwice⟩
      cases hletters.symm.trans hdirectives
      obtain ⟨fault, hrepeated⟩ := Format.exists_repeated?_iff.mpr htwice
      cases hread.symm.trans (readBy_eq_error_iff.mpr ⟨f, hf, hrepeated⟩)
    · simp only [hasDateFormat, hletters, hread, bind, Except.bind, pure, Except.pure]

/-- **The rule on a format decides, is malformed, or fails.** Over a text it gives a verdict iff all
    letters of the format are known and no directive is named twice; it is a malformed rule iff a
    letter is unknown; and it ends with a fault of the pattern iff a directive is named twice. In a
    format without percent signs that is so where two letters stand for the same directive. -/
theorem date_format_decides_or_fails {resolves : List Char → Bool} {e : Engine} {rule : Spec}
    (hcatalogue : e.catalogue = builtinFor resolves) (hkey : rule.key = Rule.key "date_format")
    {format : String} {more : List String} (hps : rule.parameters = format :: more)
    (verifier : Option Verifier) (field s : String) (j : Journal) :
    ∃ r, e.dispatch verifier field (.text s) rule j = (r, j) ∧
      ((∃ passes, r = .ok passes) ↔ ¬ HasUnknownLetter format ∧ ¬ NamesTwice format) ∧
      ((∃ detail, r = .error (.malformedRule "date_format" detail)) ↔ HasUnknownLetter format) ∧
      ((∃ detail, r = .error (.pattern detail)) ↔ NamesTwice format) ∧
      ('%' ∉ format.toList → ¬ HasUnknownLetter format →
        (NamesTwice format ↔ ¬ (standsFor format.toList).Nodup)) := by
  refine ⟨_, dispatch_dateFormat hcatalogue hkey hps verifier field s j, ?_⟩
  rcases hasDateFormat_cases format s with ⟨hunknown, honce, detail, hfault⟩ |
    ⟨hknown, htwice, detail, hfault⟩ | ⟨hknown, honce, passes, hpasses⟩
  · refine ⟨?_, ?_, ?_, namesTwice_iff_of_letters⟩ <;> simp [hfault, hunknown, honce]
  · refine ⟨?_, ?_, ?_, namesTwice_iff_of_letters⟩ <;> simp [hfault, hknown, htwice]
  · refine ⟨?_, ?_, ?_, namesTwice_iff_of_letters⟩ <;> simp [hpasses, hknown, honce]

/-- The day is named twice by two letters that stand for the same directive, and `B` is no letter of
formats. -/
theorem date_format_decides_or_fails_day :
    let e : Engine := ⟨"adhoc", [], builtin, .ofPayload [], ⟨[], []⟩, default⟩
    let result := fun format => (e.dispatch none "at" (.text "x") ⟨"date_format", [format]⟩ {}).1
    (∃ passes, result "Y-m-d" = .ok passes) ∧
      (∃ detail, result "d.m.Y (j)" = .error (.pattern detail)) ∧
      ∃ detail, result "Y-m-d B" = .error (.malformedRule "date_format" detail) := by
  -- kept closed, for its keys are computed by the tables of all letters
  generalize hcatalogue : builtin = catalogue
  intro e result
  have hkey : ∀ format, Spec.key ⟨"date_format", [format]⟩ = Rule.key "date_format" := fun _ => rfl
  have hresult := fun format => date_format_decides_or_fails (e := e) hcatalogue.symm (hkey format)
    rfl none "at" "x" {}
  obtain ⟨day, hday, hdecides, -, -, hdayTwice⟩ := hresult "Y-m-d"
  obtain ⟨twice, htwice, -, -, hfails, htwiceTwice⟩ := hresult "d.m.Y (j)"
  obtain ⟨unknown, hunknown, -, hmalformed, -⟩ := hresult "Y-m-d B"
  refine ⟨?_, ?_, ?_⟩
  · have hknown : ¬ HasUnknownLetter "Y-m-d" := by decide
    have honce : (standsFor "Y-m-d".toList).Nodup := by decide
    have hnot := fun h => (hdayTwice (by decide) hknown).mp h honce
    obtain ⟨passes, hpasses⟩ := hdecides.mpr ⟨hknown, hnot⟩
    exact ⟨passes, (congrArg Prod.fst hday).trans hpasses⟩
  · have hnamed := (htwiceTwice (by decide) (by decide)).mpr (by decide)
    obtain ⟨detail, hfault⟩ := hfails.mpr hnamed
    exact ⟨detail, (congrArg Prod.fst htwice).trans hfault⟩
  · obtain ⟨detail, hfault⟩ := hmalformed.mpr (by decide)
    exact ⟨detail, (congrArg Prod.fst hunknown).trans hfault⟩

/-- With the year named twice a format gives neither a verdict nor a malformed rule. -/
theorem hasDateFormat_of_year_twice : ¬ ∀ format s : String,
    (∃ passes, hasDateFormat (.text s) format = .ok passes) ∨
      ∃ rule detail, hasDateFormat (.text s) format = .error (.malformedRule rule detail) := by
  intro hends
  have htwice : NamesTwice "Y-Y" :=
    (namesTwice_iff_of_letters (by decide) (by decide)).mpr (by decide)
  obtain ⟨detail, hfault⟩ : ∃ detail, hasDateFormat (.text "x") "Y-Y" = .error (.pattern detail) := by
    rcases hasDateFormat_cases "Y-Y" "x" with ⟨-, honce, -⟩ | ⟨-, -, hfault⟩ | ⟨-, honce, -⟩
    · exact absurd htwice honce
    · exact hfault
    · exact absurd htwice honce
  rcases hends "Y-Y" "x" with ⟨passes, hpasses⟩ | ⟨rule, detail', hmalformed⟩
  · cases hfault.symm.trans hpasses
  · cases hfault.symm.trans hmalformed

end PayloadCheck.Check
