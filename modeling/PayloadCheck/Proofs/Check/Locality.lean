import PayloadCheck.Proofs.Check.Pass

/-!
# What the built-in checks see of their surroundings

Of all rules beside its own a built-in check sees at most whether one of its field makes values
count as numbers, and only the four checks that measure see that. Three checks read dates, which may
be told from the present moment; all others see nothing but the bags (`run_eq_of_local`). So a rule
is judged alike by two engines over the same payload that differ in their other rules
(`Engine.Alike`).
-/

namespace PayloadCheck.Check

open PayloadCheck.Presence PayloadCheck.Rule PayloadCheck.Text PayloadCheck.Time

/-! ### What a check sees -/

/-- Keys of the checks that measure a value with regard to the rules of its field. -/
def sizedKeys : List String := ["size", "between", "min", "max"]

/-- Keys of the checks that read dates. -/
def datedKeys : List String := ["date", "before", "after"]

/-- A check that sees nothing of its surroundings but the bags. -/
def Check.SeesBags (check : Check) : Prop :=
  ∀ c d field v ps, c.bags = d.bags → check.run c field v ps = check.run d field v ps

/-- A check that sees beside the bags whether a rule of the field asks for numbers. -/
def Check.SeesNumeric (check : Check) : Prop :=
  ∀ c d field v ps, c.bags = d.bags →
    hasNumericRule (c.rulesFor field) = hasNumericRule (d.rulesFor field) →
      check.run c field v ps = check.run d field v ps

/-- Whether a value is a text that tells a date from the present moment. -/
def tellsByClock : Value → Bool
  | .text s =>
    ["now", "today", "tomorrow", "yesterday"].contains (lower (String.ofList (trimChars s.toList)))
  | _ => false

/-- Neither a value nor the reference that a rule compares it with tells a date from the present
moment; the reference may be a date by itself or name another field. -/
structure ClockFree (bags : Bags) (v : Value) (ps : List String) : Prop where
  value : tellsByClock v = false
  word : ∀ p, ps[0]? = some p → tellsByClock (.text p) = false
  referred : ∀ p w, ps[0]? = some p → bags.value p = .ok w → tellsByClock w = false

/-- A check that sees beside the bags what the present moment is, if something is told by it. -/
def Check.SeesClock (check : Check) : Prop :=
  ∀ c d field v ps, c.bags = d.bags → c.now = d.now ∨ ClockFree c.bags v ps →
    check.run c field v ps = check.run d field v ps

theorem seesBags_deciding {name : String} {arity : Nat}
    {decide : Context → String → Value → List String → Except Fault Bool}
    (h : ∀ c d field v ps, c.bags = d.bags → decide c field v ps = decide d field v ps) :
    (Check.deciding name arity decide).SeesBags :=
  fun c d field v ps hbags => congrArg Verdict.of (h c d field v ps hbags)

/-! ### Required values and comparisons -/

section

variable {c d : Context}

theorem value_eq (h : c.bags = d.bags) (field : String) : c.value field = d.value field := by
  simp only [Context.value, h]

theorem dataValue_eq (h : c.bags = d.bags) (field : String) :
    c.dataValue field = d.dataValue field := by
  simp only [Context.dataValue, h]

theorem isFieldPresent_eq (h : c.bags = d.bags) (field : String) :
    isFieldPresent c field = isFieldPresent d field := by
  simp only [isFieldPresent, value_eq h]

theorem allMissing_eq (h : c.bags = d.bags) (fields : List String) :
    allMissing c fields = allMissing d fields := by
  induction fields with
  | nil => rfl
  | cons field rest ih => simp only [allMissing, isFieldPresent_eq h, ih]

theorem anyMissing_eq (h : c.bags = d.bags) (fields : List String) :
    anyMissing c fields = anyMissing d fields := by
  induction fields with
  | nil => rfl
  | cons field rest ih => simp only [anyMissing, isFieldPresent_eq h, ih]

theorem comparesTo_eq (h : c.bags = d.bags) (v : Value) (other : String) (equal : Bool) :
    comparesTo c v other equal = comparesTo d v other equal := by
  simp only [comparesTo, dataValue_eq h]

end

theorem seesBags_requiredChecks : ∀ check ∈ requiredChecks, check.SeesBags := by
  simp only [requiredChecks, List.forall_mem_cons, List.not_mem_nil, false_imp_iff, implies_true,
    and_true]
  refine ⟨?_, ?_, ?_, ?_, ?_, ?_, ?_, ?_⟩ <;>
    refine seesBags_deciding fun c d field v ps h => ?_
  · rfl
  · rfl
  · rfl
  · simp only [dataValue_eq h]
  · simp only [allMissing_eq h]
  · simp only [anyMissing_eq h]
  · simp only [anyMissing_eq h]
  · simp only [allMissing_eq h]

theorem seesBags_comparisonChecks : ∀ check ∈ comparisonChecks, check.SeesBags := by
  simp only [comparisonChecks, List.forall_mem_cons, List.not_mem_nil, false_imp_iff, implies_true,
    and_true]
  refine ⟨?_, ?_, ?_, ?_, ?_⟩ <;> refine seesBags_deciding fun c d field v ps h => ?_
  · simp only [comparesTo_eq h]
  · simp only [comparesTo_eq h]
  · simp only [comparesTo_eq h]
  · rfl
  · rfl

/-! ### Forms of texts and files -/

theorem seesBags_patternChecks (resolves : List Char → Bool) :
    ∀ check ∈ patternChecks resolves, check.SeesBags := by
  simp only [patternChecks, activeUrlCheck, List.forall_mem_cons, List.not_mem_nil, false_imp_iff,
    implies_true, and_true]
  refine ⟨?_, ?_, ?_, ?_, ?_, ?_, ?_, ?_⟩ <;>
    exact seesBags_deciding fun _ _ _ _ _ _ => rfl

theorem seesBags_fileChecks : ∀ check ∈ fileChecks, check.SeesBags := by
  simp only [fileChecks, List.forall_mem_cons, List.not_mem_nil, false_imp_iff, implies_true,
    and_true]
  refine ⟨?_, ?_⟩ <;> exact seesBags_deciding fun c d field v ps h => by simp only [hasEnding, h]

/-! ### Sizes -/

theorem size_eq {c d : Context} {field : String} (hbags : c.bags = d.bags)
    (hnumeric : hasNumericRule (c.rulesFor field) = hasNumericRule (d.rulesFor field)) (v : Value) :
    c.size field v = d.size field v := by
  simp only [Context.size, sizeOf, hbags, hnumeric]

/-- The names of the checks that measure or read dates are their own keys. -/
theorem key_of_mem {name : String} (h : name ∈ sizedKeys ++ datedKeys) : Rule.key name = name := by
  have hchars : ∀ name ∈ sizedKeys ++ datedKeys,
      lowerAfter [] (identifierChars name.toList) = name.toList := by decide
  exact key_of_chars (hchars name h)

theorem sees_numericChecks : ∀ check ∈ numericChecks,
    check.SeesBags ∨ (check.SeesNumeric ∧ check.name ∈ sizedKeys) := by
  simp only [numericChecks, List.forall_mem_cons, List.not_mem_nil, false_imp_iff, implies_true,
    and_true]
  refine ⟨Or.inl ?_, Or.inl ?_, Or.inl ?_, Or.inl ?_, Or.inl ?_, Or.inr ⟨?_, ?size⟩,
    Or.inr ⟨?_, ?between⟩, Or.inr ⟨?_, ?min⟩, Or.inr ⟨?_, ?max⟩⟩
  case size | between | min | max => decide
  · exact seesBags_deciding fun _ _ _ _ _ _ => rfl
  · exact seesBags_deciding fun _ _ _ _ _ _ => rfl
  · exact seesBags_deciding fun _ _ _ _ _ _ => rfl
  · exact seesBags_deciding fun _ _ _ _ _ _ => rfl
  · exact seesBags_deciding fun _ _ _ _ _ _ => rfl
  · intro c d field v ps hbags hnumeric
    simp only [Check.deciding, size_eq hbags hnumeric]
  · intro c d field v ps hbags hnumeric
    simp only [Check.deciding, size_eq hbags hnumeric]
  · intro c d field v ps hbags hnumeric
    simp only [Check.deciding, size_eq hbags hnumeric]
  · intro c d field v ps hbags hnumeric
    simp only [Check.deciding, size_eq hbags hnumeric, isBrokenFile, hbags]

/-! ### Dates -/

theorem wordDate?_eq_none {now : Moment} {word : String}
    (h : ["now", "today", "tomorrow", "yesterday"].contains word = false) :
    wordDate? now word = none := by
  simp only [List.contains_eq_mem, List.mem_cons, List.not_mem_nil, or_false,
    decide_eq_false_iff_not, not_or] at h
  obtain ⟨hnow, htoday, htomorrow, hyesterday⟩ := h
  simp only [wordDate?, hnow, htoday, htomorrow, hyesterday, if_false]

/-- What is not told by the clock is the same date at every moment. -/
theorem readDate_eq {v : Value} (h : tellsByClock v = false) (now later : Moment) :
    readDate now v = readDate later v := by
  cases v with
  | text s =>
    simp only [tellsByClock] at h
    simp only [readDate, wordDate?_eq_none h]
  | _ => rfl

theorem readDate_context {c d : Context} {v : Value}
    (h : c.now = d.now ∨ tellsByClock v = false) : readDate c.now v = readDate d.now v := by
  rcases h with h | h
  · rw [h]
  · exact readDate_eq h _ _

theorem referenceDate_eq {c d : Context} {reference : String} (hbags : c.bags = d.bags)
    (hclock : c.now = d.now ∨ (tellsByClock (.text reference) = false ∧
      ∀ w, c.bags.value reference = .ok w → tellsByClock w = false)) :
    referenceDate c reference = referenceDate d reference := by
  have hword : readDate c.now (.text reference) = readDate d.now (.text reference) :=
    readDate_context (hclock.imp_right And.left)
  have hreferred : (do readDate c.now (← c.value reference)) =
      (do readDate d.now (← d.value reference)) := by
    rw [← value_eq hbags]
    cases hvalue : c.value reference with
    | error fault => simp only [bind, Except.bind]
    | ok w =>
      simp only [bind, Except.bind]
      exact readDate_context (hclock.imp_right fun h => h.2 w hvalue)
  simp only [referenceDate, hword, hreferred]

theorem comparesDates_eq {c d : Context} {v : Value} {ps : List String} {reference : String}
    (hbags : c.bags = d.bags) (hclock : c.now = d.now ∨ ClockFree c.bags v ps)
    (hreference : ps[0]? = some reference) (holds : Int → Int → Bool) :
    comparesDates c v reference holds = comparesDates d v reference holds := by
  have hvalue : readDate c.now v = readDate d.now v :=
    readDate_context (hclock.imp_right ClockFree.value)
  have htarget : referenceDate c reference = referenceDate d reference :=
    referenceDate_eq hbags (hclock.imp_right fun h =>
      ⟨h.word _ hreference, fun w => h.referred _ w hreference⟩)
  simp only [comparesDates, hvalue, htarget]

/-- The checks `before` and `after` compare with what their first parameter refers to. -/
theorem seesClock_comparing {name : String} {arity : Nat} (holds : Int → Int → Bool) :
    (Check.deciding name arity fun c _ v ps => do
      comparesDates c v (← parameter ps 0) holds).SeesClock := by
  intro c d field v ps hbags hclock
  refine congrArg Verdict.of ?_
  cases hreference : ps[0]? with
  | none =>
    simp only [parameter, hreference, bind, Except.bind]
  | some reference =>
    simp only [parameter, hreference]
    exact comparesDates_eq hbags hclock hreference holds

theorem sees_dateChecks : ∀ check ∈ dateChecks,
    check.SeesBags ∨ (check.SeesClock ∧ check.name ∈ datedKeys) := by
  simp only [dateChecks, List.forall_mem_cons, List.not_mem_nil, false_imp_iff, implies_true,
    and_true]
  refine ⟨Or.inr ⟨?_, ?date⟩, Or.inl ?_, Or.inr ⟨?_, ?before⟩, Or.inr ⟨?_, ?after⟩⟩
  case date | before | after => decide
  · intro c d field v ps hbags hclock
    simp only [Check.deciding, readDate_context (hclock.imp_right ClockFree.value)]
  · exact seesBags_deciding fun _ _ _ _ _ _ => rfl
  · exact seesClock_comparing _
  · exact seesClock_comparing _

/-! ### All built-in checks -/

theorem storedChecks_run_eq {check : Check} (hmem : check ∈ storedChecks) {c d : Context}
    (hverifier : c.hasVerifier = d.hasVerifier) (field : String) (v : Value) (ps : List String) :
    check.run c field v ps = check.run d field v ps := by
  simp only [storedChecks, List.mem_cons, List.not_mem_nil, or_false] at hmem
  rcases hmem with rfl | rfl
  · simp only [uniqueCheck, asking, hverifier]
  · simp only [existsCheck, asking, hverifier]

/-- **What a built-in check sees.** Over the same bags it says the same, unless it measures and the
    rules of the field ask for numbers in one case only, or it reads a date that is told from the
    present moment. -/
theorem run_eq_of_local {resolves : List Char → Bool} {check : Check}
    (hmem : check ∈ builtinChecks resolves) {c d : Context} {field : String} {v : Value}
    {ps : List String} (hbags : c.bags = d.bags) (hverifier : c.hasVerifier = d.hasVerifier)
    (hsized : check.key ∈ sizedKeys →
      hasNumericRule (c.rulesFor field) = hasNumericRule (d.rulesFor field))
    (hdated : check.key ∈ datedKeys → c.now = d.now ∨ ClockFree c.bags v ps) :
    check.run c field v ps = check.run d field v ps := by
  have hkey : check.name ∈ sizedKeys ++ datedKeys → check.key = check.name := key_of_mem
  simp only [builtinChecks, List.mem_append] at hmem
  rcases hmem with (((((h | h) | h) | h) | h) | h) | h
  · exact seesBags_requiredChecks check h c d field v ps hbags
  · exact seesBags_comparisonChecks check h c d field v ps hbags
  · rcases sees_numericChecks check h with hsees | ⟨hsees, hname⟩
    · exact hsees c d field v ps hbags
    · refine hsees c d field v ps hbags (hsized ?_)
      rw [hkey (List.mem_append_left _ hname)]
      exact hname
  · exact seesBags_patternChecks resolves check h c d field v ps hbags
  · rcases sees_dateChecks check h with hsees | ⟨hsees, hname⟩
    · exact hsees c d field v ps hbags
    · refine hsees c d field v ps hbags (hdated ?_)
      rw [hkey (List.mem_append_right _ hname)]
      exact hname
  · exact seesBags_fileChecks check h c d field v ps hbags
  · exact storedChecks_run_eq h hverifier field v ps

/-! ### Engines -/

/-- Two engines treat a rule each alike: whatever the store was asked, they come to the same
judgement, and they ask the same. -/
structure Engine.Alike (e d : Engine) (verifier : Option Verifier) (p q : Pair) : Prop where
  field : p.1 = q.1
  rule : p.2.1 = q.2.1
  judgement : ∀ asked, e.judgement verifier asked p = d.judgement verifier asked q
  call : e.callOf? verifier p = d.callOf? verifier q

namespace Engine.Alike

variable {e d : Engine} {verifier : Option Verifier} {p q : Pair}

theorem fails (h : e.Alike d verifier p q) (asked : List Query) :
    e.fails verifier asked p = d.fails verifier asked q := by
  simp only [Engine.fails, h.judgement]

theorem fault? (h : e.Alike d verifier p q) (hmessages : e.messages = d.messages)
    (asked : List Query) : e.fault? verifier asked p = d.fault? verifier asked q := by
  simp only [Engine.fault?, h.judgement, h.field, h.rule, hmessages]

theorem failure (h : e.Alike d verifier p q) : p.failure = q.failure := by
  simp only [Pair.failure, h.field, h.rule]

end Engine.Alike

namespace Engine

variable {e d : Engine} {verifier : Option Verifier}

/-- A check that says the same to two engines leads to the same answer and the same query. -/
theorem answer_eq_of_run {field : String} {v : Value} {rule : Spec}
    (hcatalogue : e.catalogue = d.catalogue)
    (hrun : ∀ check, e.catalogue.find? rule.name = some check →
      check.run (e.context verifier.isSome) field v rule.parameters =
        check.run (d.context verifier.isSome) field v rule.parameters) :
    (∀ asked, e.answer verifier asked field v rule = d.answer verifier asked field v rule) ∧
      e.query? verifier field v rule = d.query? verifier field v rule := by
  simp only [answer, query?, ← hcatalogue]
  cases hfound : e.catalogue.lookUp rule field with
  | error fault => simp
  | ok check => simp only [hrun check (Catalogue.find?_of_lookUp hfound), implies_true, and_self]

/-- Engines over the same payload treat a rule alike if it is run for both or for none, and its
check says the same to both. -/
theorem alike_of_run {p q : Pair} (hcatalogue : e.catalogue = d.catalogue)
    (hbags : e.bags = d.bags) (hfield : p.1 = q.1) (hrule : p.2.1 = q.2.1)
    (happlies : ∀ v, e.bags.value p.1 = .ok v → applies p v = applies q v)
    (hrun : ∀ v check, e.bags.value p.1 = .ok v → applies p v = true →
      e.catalogue.find? p.2.1.name = some check →
        check.run (e.context verifier.isSome) p.1 v p.2.1.parameters =
          check.run (d.context verifier.isSome) p.1 v p.2.1.parameters) :
    e.Alike d verifier p q := by
  refine ⟨hfield, hrule, fun asked => ?_, ?_⟩
  · simp only [judgement, ← hbags, ← hfield, ← hrule]
    cases hvalue : e.bags.value p.1 with
    | error fault => rfl
    | ok v =>
      simp only [← happlies v hvalue]
      cases hruns : applies p v with
      | false => simp only [Bool.false_eq_true, if_false]
      | true =>
        simp only [if_true, (answer_eq_of_run hcatalogue (hrun v · hvalue hruns)).1 asked]
  · simp only [callOf?, ← hbags, ← hfield, ← hrule]
    cases hvalue : e.bags.value p.1 with
    | error fault => rfl
    | ok v =>
      simp only [← happlies v hvalue]
      cases hruns : applies p v with
      | false => simp only [Bool.false_eq_true, if_false]
      | true => simp only [if_true, (answer_eq_of_run hcatalogue (hrun v · hvalue hruns)).2]

end Engine

end PayloadCheck.Check
