import PayloadCheck.Proofs.Check.Refusals
import PayloadCheck.Proofs.Time.Calendar

/-!
# Checks that go astray

Nine built-in checks may refuse a value with a fault that is none of the ordinary ones: `regex` for
a number of rounds that is too large, `date`, `before` and `after` where an offset takes a date out
of the years of the calendar, `date_format` where a format names a directive twice, and the four
checks on sizes where the kilobytes of a file lie beyond the doubles (`Strays`). There are no other
such faults (`refused_cases`), and each of these is met (`refused_of_strays`).
-/

namespace PayloadCheck.Check

open PayloadCheck.Value PayloadCheck.Time PayloadCheck.Pattern

/-! ### Dates that are lost -/

/-- The fault of a moment that lies outside the years of the calendar once it is told in universal
time. -/
def lostDate : Fault := .outOfRange "date value out of range"

/-- A moment with an offset that takes it out of the years of the calendar. -/
def IsLost (m : Moment) : Prop := m.offset.isSome = true ∧ ¬ Moment.InYears m.instant

/-- A moment, or a text that is read as one, that is lost. -/
inductive TellsLost (now : Moment) : Value → Prop
  | moment {m : Moment} (lost : IsLost m) : TellsLost now (.moment m)
  | text {s : String} {m : Moment}
      (word : wordDate? now (Text.lower (String.ofList (Text.trimChars s.toList))) = none)
      (read : readIso? (Text.trimChars s.toList) = some m) (lost : IsLost m) :
      TellsLost now (.text s)

/-- A value and what it is compared with, of which one is lost: the value itself, or else the
reference, or else the value of the field that the reference names. -/
inductive LosesDate (c : Context) (v : Value) (reference : String) : Prop
  | value (lost : TellsLost c.now v)
  | reference {m : Moment} (told : readDate c.now v = .ok (some m))
      (lost : TellsLost c.now (.text reference))
  | field {m : Moment} {w : Value} (told : readDate c.now v = .ok (some m))
      (noDate : readDate c.now (.text reference) = .ok none) (found : c.value reference = .ok w)
      (lost : TellsLost c.now w)

theorem ofTicks?_eq_none_iff (t : Int) : Moment.ofTicks? t = none ↔ ¬ Moment.InYears t := by
  constructor
  · rintro hnone hin
    obtain ⟨u, hu, -⟩ := Moment.ticks_ofTicks? hin
    rw [hnone] at hu
    cases hu
  · intro hout
    have hday : ¬ (0 ≤ t / ticksPerDay ∧ t / ticksPerDay < Date.dayLimit) := by
      intro hday
      refine hout ⟨?_, ?_⟩
      · have hticks : (0 : Int) < ticksPerDay := by decide
        exact (Int.ediv_nonneg_iff_of_pos hticks).mp hday.1
      · have hlimit : daysBeforeYear 10000 = Date.dayLimit := rfl
        have hticks : (0 : Int) < ticksPerDay := by decide
        rw [hlimit, Int.natCast_mul]
        exact (Int.ediv_lt_iff_lt_mul hticks).mp hday.2
    simp only [Moment.ofTicks?, Date.ofDays?, if_neg hday, Option.map_none]

theorem toUniversal_eq_error_iff {m : Moment} {fault : Fault} :
    m.toUniversal = .error fault ↔ IsLost m ∧ fault = lostDate := by
  unfold Moment.toUniversal IsLost
  cases m.offset with
  | none => simp
  | some offset =>
    rw [← ofTicks?_eq_none_iff]
    cases Moment.ofTicks? m.instant <;> simp [lostDate, eq_comm]

theorem notedDate_eq_error_iff {cs : List Char} {fault : Fault} :
    notedDate cs = .error fault ↔ (∃ m, readIso? cs = some m ∧ IsLost m) ∧ fault = lostDate := by
  unfold notedDate
  cases hread : readIso? cs with
  | none => simp
  | some m => simp [Fault.map_eq_error_iff, toUniversal_eq_error_iff]

theorem readDate_eq_error_iff {now : Moment} {v : Value} {fault : Fault} :
    readDate now v = .error fault ↔ TellsLost now v ∧ fault = lostDate := by
  constructor
  · intro h
    cases v with
    | moment m =>
      obtain ⟨hlost, hfault⟩ := toUniversal_eq_error_iff.mp (Fault.map_eq_error_iff.mp h)
      exact ⟨.moment hlost, hfault⟩
    | text s =>
      unfold readDate at h
      dsimp only at h
      split at h
      · cases h
      · split at h
        · cases h
        · next hword =>
          obtain ⟨⟨m, hread, hlost⟩, hfault⟩ := notedDate_eq_error_iff.mp h
          exact ⟨.text hword hread hlost, hfault⟩
    | _ => cases h
  · rintro ⟨hlost, rfl⟩
    cases hlost with
    | moment hlost => exact Fault.map_eq_error_iff.mpr (toUniversal_eq_error_iff.mpr ⟨hlost, rfl⟩)
    | @text s m hword hread hlost =>
      have hsome : (Text.trimChars s.toList).isEmpty = false := by
        cases hcs : Text.trimChars s.toList with
        | nil =>
          rw [hcs] at hread
          cases hread
        | cons c rest => rfl
      simp only [readDate, hsome, hword, Bool.false_eq_true, if_false]
      exact notedDate_eq_error_iff.mpr ⟨⟨m, hread, hlost⟩, rfl⟩

/-- Whether two dates are compared or one of them is lost, another fault is an ordinary one. -/
theorem comparesDates_cases {c : Context} {v : Value} {reference : String}
    {holds : Int → Int → Bool} {fault : Fault}
    (h : comparesDates c v reference holds = .error fault) :
    c.Refusal fault ∨ LosesDate c v reference ∧ fault = lostDate := by
  rcases Fault.bind_eq_error_iff.mp h with hvalue | ⟨told?, hvalue, h⟩
  · obtain ⟨hlost, hfault⟩ := readDate_eq_error_iff.mp hvalue
    exact Or.inr ⟨.value hlost, hfault⟩
  cases told? with
  | none => cases h
  | some current =>
    have hreference : referenceDate c reference = .error fault := by
      rcases Fault.bind_eq_error_iff.mp h with hreference | ⟨target?, -, h⟩
      · exact hreference
      · cases target? <;> cases h
    rcases Fault.bind_eq_error_iff.mp hreference with hword | ⟨word?, hword, h⟩
    · obtain ⟨hlost, hfault⟩ := readDate_eq_error_iff.mp hword
      exact Or.inr ⟨.reference hvalue hlost, hfault⟩
    cases word? with
    | some target => cases h
    | none =>
      rcases Fault.bind_eq_error_iff.mp h with hfound | ⟨w, hfound, hread⟩
      · exact Or.inl (raises_value reference _ hfound)
      · obtain ⟨hlost, hfault⟩ := readDate_eq_error_iff.mp hread
        exact Or.inr ⟨.field hvalue hword hfound hlost, hfault⟩

theorem comparesDates_of_loses {c : Context} {v : Value} {reference : String}
    (h : LosesDate c v reference) (holds : Int → Int → Bool) :
    comparesDates c v reference holds = .error lostDate := by
  have hof : ∀ {m : Moment}, readDate c.now v = .ok (some m) →
      referenceDate c reference = .error lostDate →
      comparesDates c v reference holds = .error lostDate := by
    intro m htold hreference
    refine Fault.bind_eq_error_iff.mpr (Or.inr ⟨some m, htold, ?_⟩)
    exact Fault.bind_eq_error_iff.mpr (Or.inl hreference)
  cases h with
  | value hlost =>
    exact Fault.bind_eq_error_iff.mpr (Or.inl (readDate_eq_error_iff.mpr ⟨hlost, rfl⟩))
  | reference htold hlost =>
    exact hof htold (Fault.bind_eq_error_iff.mpr
      (Or.inl (readDate_eq_error_iff.mpr ⟨hlost, rfl⟩)))
  | field htold hnone hfound hlost =>
    refine hof htold (Fault.bind_eq_error_iff.mpr (Or.inr ⟨none, hnone, ?_⟩))
    exact Fault.bind_eq_error_iff.mpr
      (Or.inr ⟨_, hfound, readDate_eq_error_iff.mpr ⟨hlost, rfl⟩⟩)

/-! ### Checks that go astray -/

/-- The names of the checks that may go astray. -/
def strayNames : List String :=
  ["regex", "date", "date_format", "before", "after", "size", "between", "min", "max"]

/-- A check of the given name goes astray over a value and parameters, with a fault that is none of
the ordinary ones. -/
def Strays (c : Context) (v : Value) (ps : List String) (fault : Fault) : (name : String) → Prop
  | "regex" => fault = Excess.rounds.fault ∧ isSearchable v = true ∧
      ∃ pattern, ps[0]? = some pattern ∧ Expression.ofParameter pattern = .error fault
  | "date" => fault = lostDate ∧ TellsLost c.now v
  | "date_format" => ∃ s format directives items, v = .text s ∧ ps[0]? = some format ∧
      formatOfLetters format = .ok directives ∧ Format.ofChars? directives.toList = some items ∧
        Format.repeated? [] 1 0 items = some fault
  | "before" | "after" => fault = lostDate ∧
      ∃ reference, ps[0]? = some reference ∧ LosesDate c v reference
  | "size" | "between" | "min" => fault = oversized ∧ c.Oversizes v
  | "max" => fault = oversized ∧ c.Oversizes v ∧ isBrokenFile c v = .ok false
  | _ => False

variable {resolves : List Char → Bool} {check : Check} {c : Context} {field name : String}
  {v : Value} {ps : List String} {fault : Fault}

theorem name_mem_of_strays (h : Strays c v ps fault name) : name ∈ strayNames := by
  unfold Strays at h
  split at h
  case h_10 => exact h.elim
  all_goals decide

theorem repeated?_eq_some {seen : List (Directive × Nat)} {group place : Nat} {items : Format}
    (h : Format.repeated? seen group place items = some fault) :
    ∃ detail, fault = .pattern detail := by
  induction items generalizing seen group place with
  | nil => cases h
  | cons item rest ih =>
    cases item with
    | field d =>
      rw [Format.repeated?] at h
      split at h
      · exact ⟨_, (Option.some.inj h).symm⟩
      · exact ih h
    | literal m => exact ih h
    | blanks => exact ih h

/-- A check goes astray with a fault of a range or of a pattern. -/
theorem fault_of_strays (h : Strays c v ps fault name) :
    (∃ detail, fault = .outOfRange detail) ∨ ∃ detail, fault = .pattern detail := by
  unfold Strays at h
  split at h
  · exact Or.inl ⟨_, h.1⟩
  · exact Or.inl ⟨_, h.1⟩
  · obtain ⟨s, format, directives, items, -, -, -, -, hrepeated⟩ := h
    exact Or.inr (repeated?_eq_some hrepeated)
  · exact Or.inl ⟨_, h.1⟩
  · exact Or.inl ⟨_, h.1⟩
  · exact Or.inl ⟨_, h.1⟩
  · exact Or.inl ⟨_, h.1⟩
  · exact Or.inl ⟨_, h.1⟩
  · exact Or.inl ⟨_, h.1⟩
  · exact h.elim

theorem parameter_eq {p : String} (h : ps[0]? = some p) : parameter ps 0 = .ok p := by
  unfold parameter
  rw [h]

theorem getElem?_of_parameter {p : String} (h : parameter ps 0 = .ok p) : ps[0]? = some p := by
  unfold parameter at h
  split at h
  · next q hq =>
    cases h
    exact hq
  · cases h

theorem ofParameter_cases {pattern : String} (h : Expression.ofParameter pattern = .error fault) :
    c.Refusal fault ∨ fault = Excess.rounds.fault := by
  unfold Expression.ofParameter Expression.compile at h
  dsimp only at h
  split at h
  · cases h
  · next excess _ =>
    obtain rfl := Except.error.inj h
    cases excess with
    | rounds => exact Or.inr rfl
    | digits => exact Or.inl (.value _)
    | alphabets => exact Or.inl (.value _)
  · obtain rfl := Except.error.inj h
    exact Or.inl (.rule _ _)

theorem formatOfLetters_fault {format : String} (h : formatOfLetters format = .error fault) :
    c.Refusal fault := by
  unfold formatOfLetters at h
  split at h
  · cases h
  · split at h
    · cases h
    · obtain rfl := Except.error.inj h
      exact .rule _ _

theorem readBy_eq_error_iff {directives s : String} : readBy directives s = .error fault ↔
    ∃ items, Format.ofChars? directives.toList = some items ∧
      Format.repeated? [] 1 0 items = some fault := by
  unfold readBy
  cases hitems : Format.ofChars? directives.toList with
  | none => simp
  | some items =>
    unfold Format.read
    cases hrepeated : Format.repeated? [] 1 0 items <;> simp [hrepeated]

/-- What a check that may go astray refuses. -/
def Check.RefusesOrStrays (check : Check) : Prop :=
  check.RefusesOnly fun c v ps fault => c.Refusal fault ∨ Strays c v ps fault check.name

theorem Check.RefusesPlainly.orStrays (h : check.RefusesPlainly) :
    check.RefusesOrStrays :=
  fun c field v ps fault harity hrefused => Or.inl (h c field v ps fault harity hrefused)

theorem refuses_patternChecks (resolves : List Char → Bool) :
    ∀ check ∈ patternChecks resolves, check.RefusesOrStrays := by
  simp only [patternChecks, activeUrlCheck, List.forall_mem_cons, List.not_mem_nil, false_imp_iff,
    implies_true, and_true]
  refine ⟨?regex, ?_, ?_, ?_, ?_, ?_, ?_, ?_⟩
  case regex =>
    refine refusesOnly_deciding fun c field v ps harity fault h => ?_
    cases hsearchable : isSearchable v with
    | false =>
      simp only [hsearchable, Bool.not_false, if_true] at h
      cases h
    | true =>
      simp only [hsearchable, Bool.not_true, Bool.false_eq_true, if_false] at h
      rcases Fault.bind_eq_error_iff.mp h with hparameter | ⟨pattern, hparameter, h⟩
      · exact Or.inl (raises_parameter harity _ hparameter)
      rcases Fault.bind_eq_error_iff.mp h with hread | ⟨e, -, h⟩
      · refine (ofParameter_cases hread).imp_right fun hfault => ?_
        exact ⟨hfault, hsearchable, pattern, getElem?_of_parameter hparameter, hread⟩
      · exact Or.inl (((raises_written (raises_comparable v)).bind fun _ => .ok _) _ h)
  all_goals
    refine Check.RefusesPlainly.orStrays (refusesOnly_deciding fun c field v ps _ => ?_)
  · split <;> exact .ok _
  · split <;> exact .ok _
  · split
    · exact raises_content ((raises_hostOf _).bind fun _ => .ok _)
    · exact .ok _
  · split <;> exact .ok _
  · split <;> exact .ok _
  · exact .ite ((raises_written (raises_comparable v)).bind fun _ => .ok _) (.ok _)
  · exact .ite ((raises_written (raises_comparable v)).bind fun _ => .ok _) (.ok _)

/-- What is measured first and compared then goes astray with the measure only. -/
theorem refuses_sized {α : Type} {next : Number → Except Fault α}
    (hnext : ∀ n, Raises c.Refusal (next n)) (h : c.size field v >>= next = .error fault) :
    c.Refusal fault ∨ fault = oversized ∧ c.Oversizes v := by
  rcases Fault.bind_eq_error_iff.mp h with hsize | ⟨n, -, hrest⟩
  · exact raises_size field v fault hsize
  · exact Or.inl (hnext n fault hrest)

theorem raises_bound (ps : List String) {i : Nat} (hi : i < ps.length) (rule : String) {α : Type}
    {next : Number → Except Fault α} (hnext : ∀ n, Raises c.Refusal (next n)) :
    Raises c.Refusal (do next (← numericParameter (← parameter ps i) rule)) :=
  (raises_parameter hi).bind fun _ => (raises_numericParameter _ rule).bind hnext

theorem refuses_numericChecks : ∀ check ∈ numericChecks, check.RefusesOrStrays := by
  simp only [numericChecks, List.forall_mem_cons, List.not_mem_nil, false_imp_iff, implies_true,
    and_true]
  refine ⟨?numeric, ?integer, ?array, ?digits, ?digits_between, ?size, ?between, ?min, ?max⟩
  case numeric => exact Check.RefusesPlainly.orStrays (refusesOnly_deciding fun _ _ _ _ _ => .ok _)
  case integer =>
    exact Check.RefusesPlainly.orStrays (refusesOnly_deciding fun _ _ v _ _ => raises_isInteger v)
  case array => exact Check.RefusesPlainly.orStrays (refusesOnly_deciding fun _ _ _ _ _ => .ok _)
  case digits =>
    refine Check.RefusesPlainly.orStrays (refusesOnly_deciding fun c field v ps harity => ?_)
    refine raises_bound ps harity _ fun _ => .ite ?_ (.ok _)
    exact (raises_written (raises_comparable v)).bind fun _ => .ok _
  case digits_between =>
    refine Check.RefusesPlainly.orStrays (refusesOnly_deciding fun c field v ps harity => ?_)
    refine raises_bound ps (by omega) _ fun _ => raises_bound ps harity _ fun _ => ?_
    exact (raises_written (raises_comparable v)).bind fun _ => .ok _
  case size =>
    refine refusesOnly_deciding fun c field v ps harity fault h => ?_
    exact refuses_sized (fun _ => raises_bound ps harity _ fun _ => .ok _) h
  case between =>
    refine refusesOnly_deciding fun c field v ps harity fault h => ?_
    refine refuses_sized (fun _ => raises_bound ps (by omega) _ fun _ => ?_) h
    exact raises_bound ps harity _ fun _ => .ok _
  case min =>
    refine refusesOnly_deciding fun c field v ps harity fault h => ?_
    exact refuses_sized (fun _ => raises_bound ps harity _ fun _ => .ok _) h
  case max =>
    refine refusesOnly_deciding fun c field v ps harity fault h => ?_
    rcases Fault.bind_eq_error_iff.mp h with hbroken | ⟨broken, hbroken, hrest⟩
    · exact Or.inl (raises_isBrokenFile v fault hbroken)
    cases broken with
    | true => cases hrest
    | false =>
      have hsized := refuses_sized (fun _ => raises_bound ps harity _ fun _ => .ok _) hrest
      exact hsized.imp_right fun ⟨hfault, hover⟩ => ⟨hfault, hover, hbroken⟩

/-- A comparison of dates goes astray with what it compares. -/
theorem refuses_comparing (holds : Int → Int → Bool) (harity : 1 ≤ ps.length)
    (h : (do comparesDates c v (← parameter ps 0) holds) = .error fault) :
    c.Refusal fault ∨
      (fault = lostDate ∧ ∃ reference, ps[0]? = some reference ∧ LosesDate c v reference) := by
  rcases Fault.bind_eq_error_iff.mp h with hparameter | ⟨reference, hparameter, hcompares⟩
  · exact Or.inl (raises_parameter harity _ hparameter)
  · refine (comparesDates_cases hcompares).imp_right fun ⟨hloses, hfault⟩ => ?_
    exact ⟨hfault, reference, getElem?_of_parameter hparameter, hloses⟩

theorem refuses_dateChecks : ∀ check ∈ dateChecks, check.RefusesOrStrays := by
  simp only [dateChecks, List.forall_mem_cons, List.not_mem_nil, false_imp_iff, implies_true,
    and_true]
  refine ⟨?date, ?date_format, ?before, ?after⟩ <;>
    refine refusesOnly_deciding fun c field v ps harity fault h => ?_
  case date =>
    rcases Fault.bind_eq_error_iff.mp h with hread | ⟨told?, -, h⟩
    · obtain ⟨hlost, hfault⟩ := readDate_eq_error_iff.mp hread
      exact Or.inr ⟨hfault, hlost⟩
    · cases h
  case date_format =>
    cases v with
    | text s =>
      rcases Fault.bind_eq_error_iff.mp h with hparameter | ⟨format, hparameter, h⟩
      · exact Or.inl (raises_parameter harity _ hparameter)
      rcases Fault.bind_eq_error_iff.mp h with hletters | ⟨directives, hletters, h⟩
      · exact Or.inl (formatOfLetters_fault hletters)
      rcases Fault.bind_eq_error_iff.mp h with hread | ⟨moment?, -, h⟩
      · obtain ⟨items, hitems, hrepeated⟩ := readBy_eq_error_iff.mp hread
        exact Or.inr ⟨s, format, directives, items, rfl, getElem?_of_parameter hparameter,
          hletters, hitems, hrepeated⟩
      · cases h
    | _ => cases h
  case before | after => exact refuses_comparing _ harity h

/-! ### All built-in checks -/

/-- What a built-in check refuses that has its parameters. -/
theorem refused_cases (hmem : check ∈ builtinChecks resolves) (harity : check.arity ≤ ps.length)
    (h : check.run c field v ps = .refused fault) :
    c.Refusal fault ∨ Strays c v ps fault check.name := by
  have hrefuses : check.RefusesOrStrays := by
    simp only [builtinChecks, List.mem_append] at hmem
    rcases hmem with (((((h | h) | h) | h) | h) | h) | h
    · exact (refusesPlainly_requiredChecks check h).orStrays
    · exact (refusesPlainly_comparisonChecks check h).orStrays
    · exact refuses_numericChecks check h
    · exact refuses_patternChecks resolves check h
    · exact refuses_dateChecks check h
    · exact (refusesPlainly_fileChecks check h).orStrays
    · exact (refusesPlainly_storedChecks check h).orStrays
  exact hrefuses c field v ps fault harity h

/-- The labels of what built-in checks refuse that have their parameters. -/
def refusedLabels : List String :=
  ["ValueError", "MalformedRuleError", "AttributeError", "MissingPresenceVerifierError",
   "OverflowError", "error"]

theorem label_of_refused (hmem : check ∈ builtinChecks resolves)
    (harity : check.arity ≤ ps.length) (h : check.run c field v ps = .refused fault) :
    fault.label ∈ refusedLabels := by
  rcases refused_cases hmem harity h with hrefusal | hstrays
  · cases hrefusal <;> simp [Fault.label, lacks, refusedLabels]
  · rcases fault_of_strays hstrays with ⟨detail, rfl⟩ | ⟨detail, rfl⟩ <;>
      simp [Fault.label, refusedLabels]

/-- A check that may go astray is one on dates, one on numbers, or the one on expressions. -/
theorem check_of_strayName (hmem : check ∈ builtinChecks resolves)
    (hname : check.name ∈ strayNames) :
    check ∈ dateChecks ∨ check ∈ numericChecks ∨
      (check ∈ patternChecks resolves ∧ check.name = "regex") := by
  have hothers : ∀ name ∈ (requiredChecks ++ comparisonChecks ++ fileChecks ++
      storedChecks).map Check.name, name ∉ strayNames := by decide
  have hpatterns : ∀ name ∈ (patternChecks resolves).map Check.name,
      name ∈ strayNames → name = "regex" := by
    have hnames : (patternChecks resolves).map Check.name =
        ["regex", "email", "url", "active_url", "ip", "alpha", "alpha_num", "alpha_dash"] := rfl
    rw [hnames]
    decide
  have hother : check ∉ requiredChecks ++ comparisonChecks ++ fileChecks ++ storedChecks :=
    fun h => hothers _ (List.mem_map_of_mem h) hname
  simp only [List.mem_append, not_or] at hother
  simp only [builtinChecks, List.mem_append] at hmem
  rcases hmem with (((((h | h) | h) | h) | h) | h) | h
  · exact absurd h hother.1.1.1
  · exact absurd h hother.1.1.2
  · exact Or.inr (Or.inl h)
  · exact Or.inr (Or.inr ⟨h, hpatterns _ (List.mem_map_of_mem h) hname⟩)
  · exact Or.inl h
  · exact absurd h hother.1.2
  · exact absurd h hother.2

theorem deciding_refused {name : String} {arity : Nat}
    {decide : Context → String → Value → List String → Except Fault Bool}
    (h : decide c field v ps = .error fault) :
    (Check.deciding name arity decide).run c field v ps = .refused fault :=
  verdict_refused_iff.mpr h

/-- Where a check goes astray it refuses the value. -/
theorem refused_of_strays (hmem : check ∈ builtinChecks resolves)
    (h : Strays c v ps fault check.name) : check.run c field v ps = .refused fault := by
  have hcomparing : ∀ {holds : Int → Int → Bool}, (fault = lostDate ∧
      ∃ reference, ps[0]? = some reference ∧ LosesDate c v reference) →
      (do comparesDates c v (← parameter ps 0) holds) = .error fault := by
    rintro holds ⟨rfl, reference, hreference, hloses⟩
    rw [parameter_eq hreference]
    exact comparesDates_of_loses hloses holds
  have hsized : ∀ {α : Type} {next : Number → Except Fault α},
      fault = oversized ∧ c.Oversizes v → c.size field v >>= next = .error fault := by
    rintro α next ⟨rfl, hover⟩
    rw [size_of_oversizes hover field]
    rfl
  rcases check_of_strayName hmem (name_mem_of_strays h) with hdate | hnumeric | ⟨hpattern, hregex⟩
  · simp only [dateChecks, List.mem_cons, List.not_mem_nil, or_false] at hdate
    rcases hdate with rfl | rfl | rfl | rfl <;> refine deciding_refused ?_
    · obtain ⟨rfl, hlost⟩ := h
      exact Fault.bind_eq_error_iff.mpr (Or.inl (readDate_eq_error_iff.mpr ⟨hlost, rfl⟩))
    · obtain ⟨s, format, directives, items, rfl, hformat, hletters, hitems, hrepeated⟩ := h
      have hread : readBy directives s = .error fault :=
        readBy_eq_error_iff.mpr ⟨items, hitems, hrepeated⟩
      simp only [parameter_eq hformat, hasDateFormat, hletters, hread, bind, Except.bind]
    · exact hcomparing h
    · exact hcomparing h
  · simp only [numericChecks, List.mem_cons, List.not_mem_nil, or_false] at hnumeric
    rcases hnumeric with rfl | rfl | rfl | rfl | rfl | rfl | rfl | rfl | rfl
    case inr.inr.inr.inr.inr.inl => exact deciding_refused (hsized h)
    case inr.inr.inr.inr.inr.inr.inl => exact deciding_refused (hsized h)
    case inr.inr.inr.inr.inr.inr.inr.inl => exact deciding_refused (hsized h)
    case inr.inr.inr.inr.inr.inr.inr.inr =>
      obtain ⟨hfault, hover, hwhole⟩ := h
      refine deciding_refused ?_
      simp only [hwhole]
      exact hsized ⟨hfault, hover⟩
    all_goals exact h.elim
  · simp only [patternChecks, activeUrlCheck, List.mem_cons, List.not_mem_nil, or_false]
      at hpattern
    rcases hpattern with rfl | rfl | rfl | rfl | rfl | rfl | rfl | rfl
    · obtain ⟨-, hsearchable, pattern, hgiven, hread⟩ := h
      refine deciding_refused ?_
      simp only [hsearchable, parameter_eq hgiven, hread, bind, Except.bind, Bool.not_true,
        Bool.false_eq_true, if_false]
    all_goals simp [Check.deciding] at hregex

end PayloadCheck.Check
