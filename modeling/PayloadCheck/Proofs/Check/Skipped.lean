import PayloadCheck.Proofs.Check.Locality

/-!
# Rules that are passed over

A rule that is passed over leaves no failure behind. Nor does it need to be there: over the built-in
checks an engine without the rules that it passes over comes to the same result and asks the store
the same, whatever parameters those rules have (`skipped_rules_leave_no_trace`). They are passed
over before anything of them is looked at, and what the other rules of the field see of them does
not matter to those that are run. A value that is present is measured with regard to all of its
rules, for none of them is passed over; and no rule that reacts to missing values measures.
-/

namespace PayloadCheck.Check

open PayloadCheck.Presence PayloadCheck.Rule PayloadCheck.Text

/-! ### Rules that react to missing values -/

theorem isAbsent_of_isPresent {v : Value} {field : String} (h : v.isPresent field = true) :
    v.isAbsent = false := by
  cases v with
  | absent => simp [Value.isPresent] at h
  | _ => rfl

theorem isImplicit_iff {rule : Spec} : isImplicit rule = true ↔ rule.key ∈ implicitKeys := by
  rw [isImplicit, List.contains_iff_mem]

/-- No rule that reacts to missing values measures. -/
theorem not_sized_of_implicit {key : String} (h : key ∈ implicitKeys) : key ∉ sizedKeys := by
  revert key
  decide

/-! ### Engines without skipped rules -/

namespace Engine

/-- Whether a rule of a field is passed over: there is a value to decide by, and the rule is not run
for it. -/
def skips (e : Engine) (p : Pair) : Bool :=
  match e.bags.value p.1 with
  | .ok v => !applies p v
  | .error _ => false

/-- The rules of a field that are not passed over. -/
def unskipped (e : Engine) (field : String) (specs : List Spec) : List Spec :=
  specs.filter fun rule => !e.skips (field, rule, specs)

/-- The engine without the rules that it passes over. -/
def withoutSkipped (e : Engine) : Engine :=
  { e with rules := e.rules.map fun entry => (entry.1, e.unskipped entry.1 entry.2) }

/-- A rule as it stands among those that are not passed over. -/
def thinned (e : Engine) (p : Pair) : Pair := (p.1, p.2.1, e.unskipped p.1 p.2.2)

variable {e : Engine} {verifier : Option Verifier}

theorem pairs_withoutSkipped (e : Engine) :
    pairs e.withoutSkipped.rules =
      ((pairs e.rules).filter fun p => !e.skips p).map e.thinned := by
  simp only [pairs, withoutSkipped, List.flatMap_map, List.filter_flatMap, List.map_flatMap]
  refine congrArg (e.rules.flatMap ·) (funext fun entry => ?_)
  rw [unskipped, List.filter_map, List.map_map]
  rfl

theorem applies_of_not_skips {p : Pair} {v : Value} (hvalue : e.bags.value p.1 = .ok v)
    (h : e.skips p = false) : applies p v = true := by
  simpa [skips, hvalue] using h

/-- A rule that is passed over is not judged, and asks nothing. -/
theorem silent_of_skips (verifier : Option Verifier) {p : Pair} (h : e.skips p = true) :
    (∀ asked, e.judgement verifier asked p = .ok none) ∧ e.callOf? verifier p = none := by
  unfold skips at h
  unfold judgement callOf?
  cases hvalue : e.bags.value p.1 with
  | error fault => simp [hvalue] at h
  | ok v =>
    have hnot : applies p v = false := by simpa [hvalue] using h
    simp only [hnot, Bool.false_eq_true, if_false, implies_true, and_self]

theorem isSometimes_unskipped {field : String} {specs : List Spec}
    (h : isSometimes specs = false) : isSometimes (e.unskipped field specs) = false := by
  simp only [isSometimes, unskipped, List.any_eq_false, List.mem_filter] at h ⊢
  exact fun rule hrule => h rule hrule.1

/-- Of a field whose value is present no rule is passed over. -/
theorem unskipped_of_isPresent {field : String} {v : Value} (hvalue : e.bags.value field = .ok v)
    (hpresent : v.isPresent field = true) (specs : List Spec) :
    e.unskipped field specs = specs := by
  refine List.filter_eq_self.mpr fun rule _ => ?_
  have happlies : applies (field, rule, specs) v = true :=
    applies_iff.mpr ⟨Or.inl (isAbsent_of_isPresent hpresent), Or.inl hpresent⟩
  simp only [skips, hvalue, happlies, Bool.not_true, Bool.not_false]

theorem rulesFor_withoutSkipped {field : String} {v : Value}
    (hvalue : e.bags.value field = .ok v) (hpresent : v.isPresent field = true)
    (hasVerifier : Bool) :
    (e.withoutSkipped.context hasVerifier).rulesFor field =
      (e.context hasVerifier).rulesFor field := by
  simp only [Context.rulesFor, context, withoutSkipped, FieldMap.get?_map]
  cases e.rules.get? field with
  | none => rfl
  | some specs => exact unskipped_of_isPresent hvalue hpresent specs

/-- A rule that is not passed over is treated alike when those that are passed over are gone. -/
theorem alike_thinned {resolves : List Char → Bool} (hcatalogue : e.catalogue = builtinFor resolves)
    (verifier : Option Verifier) {p : Pair} (h : e.skips p = false) :
    e.Alike e.withoutSkipped verifier p (e.thinned p) := by
  refine alike_of_run rfl rfl rfl rfl (fun v hvalue => ?_) fun v check hvalue happlies hfind => ?_
  · have happlies := applies_of_not_skips hvalue h
    obtain ⟨hsubmitted, hpresent⟩ := applies_iff.mp happlies
    rw [happlies, eq_comm]
    exact applies_iff.mpr ⟨hsubmitted.imp_right isSometimes_unskipped, hpresent⟩
  · rw [hcatalogue] at hfind
    obtain ⟨hmem, hkey⟩ := Catalogue.mem_of_find?_ofList hfind
    refine run_eq_of_local hmem rfl rfl (fun hsized => ?_) fun _ => Or.inl rfl
    rcases (applies_iff.mp happlies).2 with hpresent | himplicit
    · rw [rulesFor_withoutSkipped hvalue hpresent]
    · rw [← hkey] at hsized
      exact absurd hsized (not_sized_of_implicit (isImplicit_iff.mp himplicit))

/-! ### Passes without skipped rules -/

/-- A rule that is passed over adds nothing to a pass. -/
theorem no_trace_of_skips {p : Pair} (h : e.skips p = true) (verifier : Option Verifier)
    (asked : List Query) :
    e.fault? verifier asked p = none ∧ e.fails verifier asked p = false ∧
      e.callOf? verifier p = none := by
  obtain ⟨hjudged, hcall⟩ := silent_of_skips verifier h
  simp only [fault?, fails, hjudged, hcall, and_self]

section

variable {resolves : List Char → Bool} (hcatalogue : e.catalogue = builtinFor resolves)
include hcatalogue

theorem firstFault?_thinned (asked : List Query) (ps : List Pair) :
    e.withoutSkipped.firstFault? verifier asked ((ps.filter fun p => !e.skips p).map e.thinned) =
      e.firstFault? verifier asked ps := by
  induction ps generalizing asked with
  | nil => rfl
  | cons p rest ih =>
    cases hskips : e.skips p with
    | true =>
      obtain ⟨hfault, -, hcall⟩ := no_trace_of_skips hskips verifier asked
      rw [List.filter_cons_of_neg (by simp [hskips]), ih, firstFault?_cons, hfault, hcall]
      simp
    | false =>
      have halike := alike_thinned hcatalogue verifier hskips
      rw [List.filter_cons_of_pos (by simp [hskips]), List.map_cons, firstFault?_cons,
        firstFault?_cons, ih, halike.fault? rfl, halike.call]

theorem failing_thinned (asked : List Query) (ps : List Pair) :
    e.withoutSkipped.failing verifier asked ((ps.filter fun p => !e.skips p).map e.thinned) =
      (e.failing verifier asked ps).map e.thinned := by
  induction ps generalizing asked with
  | nil => rfl
  | cons p rest ih =>
    cases hskips : e.skips p with
    | true =>
      obtain ⟨-, hfails, hcall⟩ := no_trace_of_skips hskips verifier asked
      rw [List.filter_cons_of_neg (by simp [hskips]), ih, failing_cons, hfails, hcall]
      simp
    | false =>
      have halike := alike_thinned hcatalogue verifier hskips
      rw [List.filter_cons_of_pos (by simp [hskips]), List.map_cons, failing_cons, failing_cons, ih,
        ← halike.fails, ← halike.call, List.map_append]
      cases e.fails verifier asked p <;> rfl

theorem calls_thinned (asked : List Query) (ps : List Pair) :
    (e.withoutSkipped.reached verifier asked
        ((ps.filter fun p => !e.skips p).map e.thinned)).filterMap
        (e.withoutSkipped.callOf? verifier) =
      (e.reached verifier asked ps).filterMap (e.callOf? verifier) := by
  induction ps generalizing asked with
  | nil => rfl
  | cons p rest ih =>
    cases hskips : e.skips p with
    | true =>
      obtain ⟨hfault, -, hcall⟩ := no_trace_of_skips hskips verifier asked
      rw [List.filter_cons_of_neg (by simp [hskips]), ih, reached_cons_of_no_fault rest hfault,
        hcall]
      simp [hcall]
    | false =>
      have halike := alike_thinned hcatalogue verifier hskips
      rw [List.filter_cons_of_pos (by simp [hskips]), List.map_cons]
      cases hfault : e.fault? verifier asked p with
      | some fault =>
        have hthinned := (halike.fault? rfl asked).symm.trans hfault
        rw [reached_cons_of_fault _ hthinned, reached_cons_of_fault rest hfault,
          List.filterMap_cons, List.filterMap_cons, halike.call]
        rfl
      | none =>
        have hthinned := (halike.fault? rfl asked).symm.trans hfault
        rw [reached_cons_of_no_fault _ hthinned, reached_cons_of_no_fault rest hfault,
          List.filterMap_cons, List.filterMap_cons, ← halike.call, ih]

/-- Without the rules that are passed over a pass comes to the same result, and asks the same. -/
theorem run_withoutSkipped (asked : List Query) :
    (e.withoutSkipped.run verifier asked).1 = (e.run verifier asked).1 ∧
      (e.withoutSkipped.run verifier asked).2.asked = (e.run verifier asked).2.asked := by
  constructor
  · rw [run_result, run_result, pairs_withoutSkipped, firstFault?_thinned hcatalogue,
      failing_thinned hcatalogue]
    cases e.firstFault? verifier asked (pairs e.rules) with
    | some fault => rfl
    | none =>
      simp only [outcomeOf, List.map_map, List.isEmpty_map]
      rfl
  · rw [(run_eq e.withoutSkipped verifier asked).2, (run_eq e verifier asked).2, evaluateAll_asked,
      evaluateAll_asked, pairs_withoutSkipped, calls_thinned hcatalogue]

end

end Engine

/-- What was not submitted has no value. -/
theorem value_of_not_submitted {bags : Bags} {field : String} {v : Value}
    (hvalue : bags.value field = .ok v) (hnot : bags.isSubmitted field = .ok false) :
    v.isAbsent = true := by
  simpa [Bags.isSubmitted, hvalue, bind, Except.bind, pure, Except.pure] using hnot

/-- **Rules that are passed over leave no trace.** No failure of a completed pass is one of a rule
    that does not react to missing values on a missing value, or one of a field that was not
    submitted and has a rule `sometimes`, in any spelling, in every list of rules under its name.
    Over the built-in checks a pass without the rules that are passed over ends in the same way,
    with the same failures and messages or the same fault, and asks the store the same. -/
theorem skipped_rules_leave_no_trace (e : Engine) (verifier : Option Verifier)
    (asked : List Query) :
    (∀ o, (e.run verifier asked).1 = .ok o →
      (∀ failure ∈ o.failures, ∀ v, e.bags.value failure.field = .ok v →
        v.isPresent failure.field = false → Rule.key failure.rule ∈ implicitKeys) ∧
      (∀ field, e.bags.isSubmitted field = .ok false →
        (∀ rules, (field, rules) ∈ e.rules → ∃ rule ∈ rules, rule.key = "sometimes") →
          ∀ failure ∈ o.failures, failure.field ≠ field)) ∧
    (∀ resolves, e.catalogue = builtinFor resolves →
      (e.withoutSkipped.run verifier asked).1 = (e.run verifier asked).1 ∧
        (e.withoutSkipped.run verifier asked).2.asked = (e.run verifier asked).2.asked) := by
  refine ⟨fun o ho => ?_, fun resolves hcatalogue => Engine.run_withoutSkipped hcatalogue asked⟩
  -- every failure comes from a rule that was run
  have hfailed : ∀ failure ∈ o.failures, ∃ p : Pair, p ∈ Engine.pairs e.rules ∧ ∃ v,
      p.failure = failure ∧ e.bags.value p.1 = .ok v ∧ Engine.applies p v = true := by
    intro failure hfailure
    rw [Engine.run_result] at ho
    split at ho
    · cases ho
    · cases ho
      obtain ⟨p, hp, rfl⟩ := List.mem_map.mp hfailure
      obtain ⟨hpair, before, hfails⟩ := Engine.mem_failing hp
      obtain ⟨v, hvalue, happlies⟩ := Engine.applies_of_fails hfails
      exact ⟨p, hpair, v, rfl, hvalue, happlies⟩
  constructor
  · intro failure hfailure w hw hmissing
    obtain ⟨p, -, v, rfl, hvalue, happlies⟩ := hfailed failure hfailure
    cases hvalue.symm.trans hw
    rcases (Engine.applies_iff.mp happlies).2 with hpresent | himplicit
    · simp [Pair.failure, hpresent] at hmissing
    · exact isImplicit_iff.mp himplicit
  · rintro field hnot hsometimes failure hfailure rfl
    obtain ⟨p, hpair, v, rfl, hvalue, happlies⟩ := hfailed failure hfailure
    rcases (Engine.applies_iff.mp happlies).1 with hsubmitted | hunmarked
    · rw [value_of_not_submitted hvalue hnot] at hsubmitted
      cases hsubmitted
    · obtain ⟨rule, hrule, hkey⟩ := hsometimes p.2.2 (mem_pairs_iff.mp hpair).1
      simp only [isSometimes, List.any_eq_false, beq_iff_eq] at hunmarked
      exact hunmarked rule hrule hkey

/-- A field that was not submitted, with a rule that lacks its parameters: the rule is passed over
because of `sometimes`, and the pass fails by another field alone, as it does without the rule. -/
theorem skipped_rules_leave_no_trace_unsent :
    let rules : List Spec := [⟨"Sometimes", []⟩, ⟨"Unique", []⟩]
    let png : Spec := ⟨"Mimes", ["png"]⟩
    let e : Engine :=
      ⟨"adhoc", [("email", rules), ("icon", [png])], builtin, .ofPayload [("icon", .text "x")],
        ⟨[(png.readable, "no picture")], []⟩, default⟩
    ∃ o, (e.run none []).1 = .ok o ∧ o.failures = [⟨"icon", "Mimes", ["png"]⟩] ∧
      (∀ failure ∈ o.failures, failure.field ≠ "email") ∧
      (e.withoutSkipped.run none []).1 = .ok o := by
  -- kept closed, for its keys are computed by the tables of all letters
  generalize hcatalogue : builtin = catalogue
  intro rules png e
  have hsometimes : Rule.key "Sometimes" = "sometimes" := key_of_chars (by decide)
  have hmarked : isSometimes rules = true := by
    simp [isSometimes, rules, Spec.key, hsometimes]
  have hmissing : e.bags.value "email" = .ok .absent := rfl
  have hskips : ∀ rule, e.skips ("email", rule, rules) = true := by
    intro rule
    have happlies : Engine.applies ("email", rule, rules) .absent = false := by
      simp [Engine.applies, skip?, Value.isAbsent, hmarked]
    simp only [Engine.skips, hmissing, happlies, Bool.not_false]
  have happlies : Engine.applies ("icon", png, [png]) (.text "x") = true := by
    refine Engine.applies_iff.mpr ⟨Or.inl rfl, Or.inl ?_⟩
    simp [Value.isPresent, Text.allBlank, isBlank]
  have hjudged : e.judgement none [] ("icon", png, [png]) = .ok (some false) :=
    Engine.judgement_of_mimes hcatalogue.symm rfl rfl happlies
      (key_of_chars (by decide) : Rule.key "Mimes" = "mimes") (Nat.le_refl 1) []
  have hlisted : e.messages.texts.get? png.readable = some "no picture" :=
    List.lookup_cons_self ..
  obtain ⟨text, htext⟩ := Engine.resolves_of_text hlisted "icon"
  obtain ⟨hfault, hfails⟩ := Engine.no_fault_of_message hjudged htext
  have hsilent := fun rule => Engine.no_trace_of_skips (hskips rule) none []
  have hfirst : ∀ rule rest, e.firstFault? none [] (("email", rule, rules) :: rest) =
      e.firstFault? none [] rest := by
    intro rule rest
    rw [Engine.firstFault?_cons, (hsilent rule).1, (hsilent rule).2.2]
    rfl
  have hfailing : ∀ rule rest, e.failing none [] (("email", rule, rules) :: rest) =
      e.failing none [] rest := by
    intro rule rest
    rw [Engine.failing_cons, (hsilent rule).2.1, (hsilent rule).2.2]
    rfl
  have hresult : (e.run none []).1 =
      .ok (Engine.outcomeOf e.messages [("icon", png, [png])]) := by
    have hpairs : Engine.pairs e.rules = [("email", ⟨"Sometimes", []⟩, rules),
      ("email", ⟨"Unique", []⟩, rules), ("icon", png, [png])] := rfl
    rw [Engine.run_result, hpairs, hfirst, hfirst, hfailing, hfailing, Engine.firstFault?_cons,
      hfault, Engine.failing_cons, hfails]
    rfl
  obtain ⟨hcompleted, hsame⟩ := skipped_rules_leave_no_trace e none []
  refine ⟨_, hresult, rfl, ?_, (hsame Network.isLiteralHost hcatalogue.symm).1.trans hresult⟩
  refine (hcompleted _ hresult).2 "email" rfl fun specs hspecs => ?_
  obtain rfl : specs = rules := by simpa [e] using hspecs
  exact ⟨⟨"Sometimes", []⟩, List.mem_cons_self .., hsometimes⟩

end PayloadCheck.Check
