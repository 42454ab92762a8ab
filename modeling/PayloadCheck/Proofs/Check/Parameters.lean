import PayloadCheck.Proofs.Check.Construction

/-!
# Enough parameters

A check is registered with the number of parameters that it needs. A rule with fewer is refused
before the check is run and before anything is asked; one with as many, whatever they are, is never
refused for want of a parameter, neither before the check nor in it
(`parameters_suffice_or_are_refused`). What may be left out is read behind a guard
(`parameterIfGiven_eq`), and what a store raises comes after it was asked.
-/

namespace PayloadCheck.Check

open PayloadCheck.Presence PayloadCheck.Rule

/-- A rule has too few parameters. -/
def TellsTooFew (fault : Fault) : Prop :=
  ∃ rule needed given, fault = .tooFewParameters rule needed given

/-- A position holds no parameter. -/
def TellsNoParameter (fault : Fault) : Prop := ∃ position, fault = .noParameter position

theorem refuses_no_parameter {resolves : List Char → Bool} {check : Check}
    (hmem : check ∈ builtinChecks resolves) :
    check.RefusesOnly fun _ _ _ fault => ¬ TellsTooFew fault ∧ ¬ TellsNoParameter fault := by
  intro c field v ps fault harity hrefused
  have hlabel := label_of_refused hmem harity hrefused
  constructor
  · rintro ⟨rule, needed, given, rfl⟩
    exact absurd hlabel (by simp [Fault.label, refusedLabels])
  · rintro ⟨position, rfl⟩
    exact absurd hlabel (by simp [Fault.label, refusedLabels])

/-- A store that fails has not been short of a parameter of this library. -/
theorem storeFault_has_parameters (fault : Fault) : ¬ TellsNoParameter (storeFault fault) := by
  cases hown : fault.isOwn with
  | true =>
    rw [storeFault_of_own hown]
    rintro ⟨position, rfl⟩
    cases hown
  | false =>
    rw [storeFault_of_not_own hown]
    rintro ⟨position, heq⟩
    cases heq

theorem countAfter_has_parameters (verifier : Option Verifier) (asked : List Query) (q : Query) :
    Raises (¬ TellsNoParameter ·) (countAfter verifier asked q) := by
  intro fault h
  cases verifier with
  | none =>
    rintro ⟨position, rfl⟩
    cases h
  | some store =>
    unfold countAfter at h
    cases hreply : (store.reply asked q).answer.bind countOf with
    | ok count =>
      simp only [hreply] at h
      cases h
    | error cause =>
      simp only [hreply] at h
      obtain rfl := Except.error.inj h
      exact storeFault_has_parameters cause

namespace Engine

variable {e : Engine} {rule : Spec} {check : Check}

section Few

variable (hfind : e.catalogue.find? rule.name = some check)
  (hfew : rule.parameters.length < check.arity)
include hfind hfew

/-- What the check would do, and whether there is a store, makes no difference. -/
theorem dispatch_of_few (verifier : Option Verifier) (field : String) (v : Value) (j : Journal) :
    e.dispatch verifier field v rule j =
      (.error (.tooFewParameters rule.readable check.arity rule.parameters.length), j) := by
  simp only [dispatch, Catalogue.lookUp_of_find? hfind, hfew, if_true]

end Few

variable {resolves : List Char → Bool} (hcatalogue : e.catalogue = builtinFor resolves)
include hcatalogue

/-- With parameters enough a rule is called short of them by a store at most, which was asked. -/
theorem asks_of_too_few (hfind : e.catalogue.find? rule.name = some check)
    (harity : check.arity ≤ rule.parameters.length) {verifier : Option Verifier} {field : String}
    {v : Value} {asked : List Query} {fault : Fault} (htells : TellsTooFew fault)
    (h : e.answer verifier asked field v rule = .error fault) :
    ∃ q, e.query? verifier field v rule = some q := by
  have hrefuses := refuses_no_parameter (mem_builtinChecks_of_find? hcatalogue hfind)
  have hnotFew : ¬ rule.parameters.length < check.arity := Nat.not_lt.mpr harity
  simp only [answer, Catalogue.lookUp_of_find? hfind, hnotFew, if_false] at h
  simp only [query?, Catalogue.lookUp_of_find? hfind, hnotFew, if_false]
  cases hrun : check.run (e.context verifier.isSome) field v rule.parameters with
  | decided b =>
    rw [hrun] at h
    cases h
  | refused refusal =>
    rw [hrun] at h
    obtain rfl := Except.error.inj h
    exact absurd htells (hrefuses _ _ _ _ _ harity hrun).1
  | asks q judge =>
    rw [hrun] at h
    cases verifier with
    | some store => exact ⟨q, rfl⟩
    | none =>
      obtain ⟨name, needed, given, rfl⟩ := htells
      cases Fault.map_eq_error_iff.mp h

theorem answer_has_parameters (verifier : Option Verifier) (asked : List Query) (field : String)
    (v : Value) (rule : Spec) :
    Raises (¬ TellsNoParameter ·) (e.answer verifier asked field v rule) := by
  intro fault h
  cases hlook : e.catalogue.lookUp rule field with
  | error unknown =>
    simp only [answer, hlook] at h
    obtain rfl := Except.error.inj h
    unfold Catalogue.lookUp at hlook
    split at hlook
    · cases hlook
    · obtain rfl := Except.error.inj hlook
      rintro ⟨position, heq⟩
      cases heq
  | ok check =>
    have hmem := mem_builtinChecks_of_find? hcatalogue (Catalogue.find?_of_lookUp hlook)
    simp only [answer, hlook] at h
    split at h
    · obtain rfl := Except.error.inj h
      rintro ⟨position, heq⟩
      cases heq
    · next hnotFew =>
      cases hrun : check.run (e.context verifier.isSome) field v rule.parameters with
      | decided b =>
        rw [hrun] at h
        cases h
      | refused refusal =>
        rw [hrun] at h
        obtain rfl := Except.error.inj h
        exact (refuses_no_parameter hmem _ _ _ _ _ (Nat.le_of_not_lt hnotFew) hrun).2
      | asks q judge =>
        rw [hrun] at h
        exact countAfter_has_parameters verifier asked q fault (Fault.map_eq_error_iff.mp h)

/-- Nor is a pass ended for a position without a parameter, by a check or by the message of a rule
that fails. -/
theorem run_has_parameters (verifier : Option Verifier) (asked : List Query) :
    Raises (¬ TellsNoParameter ·) (e.run verifier asked).1 := by
  intro fault h
  rw [run_result] at h
  split at h
  · next first hfirst =>
    obtain rfl := Except.error.inj h
    obtain ⟨p, -, before, hfault⟩ := exists_of_firstFault? hfirst
    unfold fault? at hfault
    split at hfault
    · next refused hjudged =>
      obtain rfl := Option.some.inj hfault
      unfold judgement at hjudged
      split at hjudged
      · next cause hvalue =>
        obtain rfl := Except.error.inj hjudged
        rintro ⟨position, rfl⟩
        cases raises_value (c := e.context false) p.1 _ hvalue
      · split at hjudged
        · exact answer_has_parameters hcatalogue verifier before p.1 _ p.2.1 _
            (Fault.map_eq_error_iff.mp hjudged)
        · cases hjudged
    · split at hfault
      · next cause hresolve =>
        obtain rfl := Option.some.inj hfault
        rw [resolve_fault hresolve]
        rintro ⟨position, heq⟩
        cases heq
      · cases hfault
    · cases hfault
  · cases h

end Engine

/-- A rule has fewer parameters than the check needs that is registered for it. -/
def Engine.LacksParameters (e : Engine) (rule : Spec) : Prop :=
  ∃ check, e.catalogue.find? rule.name = some check ∧ rule.parameters.length < check.arity

/-- **Enough parameters.** A rule is refused for want of parameters, with nothing asked, iff it has
    fewer than its check is registered with. Then it makes no difference what the check would do,
    and the journal stays as it was. With parameters enough the check never comes to a position that
    holds none; nor does a dispatch, or a whole pass with the messages of the rules that fail. -/
theorem parameters_suffice_or_are_refused {e : Engine} {resolves : List Char → Bool}
    (hcatalogue : e.catalogue = builtinFor resolves) (rule : Spec) :
    (∀ verifier field v j,
      (((∃ fault, TellsTooFew fault ∧ (e.dispatch verifier field v rule j).1 = .error fault) ∧
          (e.dispatch verifier field v rule j).2.asked = j.asked) ↔ e.LacksParameters rule) ∧
        ∀ position, (e.dispatch verifier field v rule j).1 ≠ .error (.noParameter position)) ∧
      (∀ check, e.catalogue.find? rule.name = some check →
        (rule.parameters.length < check.arity →
          ∀ (other : Engine) run, other.catalogue.find? rule.name = some { check with run } →
            ∀ verifier field v j, other.dispatch verifier field v rule j =
              (.error (.tooFewParameters rule.readable check.arity rule.parameters.length), j)) ∧
        (check.arity ≤ rule.parameters.length → ∀ c field v position,
          check.run c field v rule.parameters ≠ .refused (.noParameter position))) ∧
      ∀ verifier asked position, (e.run verifier asked).1 ≠ .error (.noParameter position) := by
  refine ⟨fun verifier field v j => ?_, fun check hfind => ⟨?_, ?_⟩, ?_⟩
  · obtain ⟨hresult, hasked⟩ := e.dispatch_eq verifier field v rule j
    refine ⟨⟨?_, ?_⟩, fun position h => ?_⟩
    · rintro ⟨⟨fault, htells, hfault⟩, hnothing⟩
      have hquery : e.query? verifier field v rule = none := by
        simpa using hasked.symm.trans hnothing
      rw [hresult] at hfault
      cases hfind : e.catalogue.find? rule.name with
      | none =>
        simp only [Engine.answer, Catalogue.lookUp, hfind] at hfault
        obtain ⟨name, needed, given, rfl⟩ := htells
        cases hfault
      | some check =>
        refine ⟨check, hfind, Nat.lt_of_not_le fun harity => ?_⟩
        obtain ⟨q, hasks⟩ := Engine.asks_of_too_few hcatalogue hfind harity htells hfault
        cases hasks.symm.trans hquery
    · rintro ⟨check, hfind, hfew⟩
      rw [Engine.dispatch_of_few hfind hfew]
      exact ⟨⟨_, ⟨_, _, _, rfl⟩, rfl⟩, rfl⟩
    · rw [hresult] at h
      exact Engine.answer_has_parameters hcatalogue verifier j.asked field v rule _ h ⟨_, rfl⟩
  · intro hfew other run hother verifier field v j
    exact Engine.dispatch_of_few hother hfew verifier field v j
  · intro harity c field v position h
    have hmem := Engine.mem_builtinChecks_of_find? hcatalogue hfind
    exact (refuses_no_parameter hmem c field v _ _ harity h).2 ⟨_, rfl⟩
  · intro verifier asked position h
    exact Engine.run_has_parameters hcatalogue verifier asked _ h ⟨_, rfl⟩

/-- `unique` needs a table. Without one it is refused, with a blank one it is run, and its further
positions may be left out. -/
theorem parameters_suffice_or_are_refused_unique :
    let e : Engine := ⟨"adhoc", [], builtin, .ofPayload [], ⟨[], []⟩, default⟩
    let short : Spec := ⟨"unique", []⟩
    let blank : Spec := ⟨"unique", [""]⟩
    (∀ verifier v j, e.dispatch verifier "email" v short j =
        (.error (.tooFewParameters short.readable 1 0), j)) ∧
      ¬ e.LacksParameters blank ∧
      ∀ c field v position,
        uniqueCheck.run c field v blank.parameters ≠ .refused (.noParameter position) := by
  -- kept closed, for its keys are computed by the tables of all letters
  generalize hcatalogue : builtin = catalogue
  intro e short blank
  have hfind : catalogue.find? "unique" = some uniqueCheck := by
    rw [← hcatalogue]
    exact find?_builtin_unique key_uniqueCheck
  have hdecided := fun rule => parameters_suffice_or_are_refused (e := e) hcatalogue.symm rule
  refine ⟨fun verifier v j => ?_, ?_, ?_⟩
  · exact ((hdecided short).2.1 uniqueCheck hfind).1 Nat.one_pos e uniqueCheck.run hfind verifier
      "email" v j
  · rintro ⟨check, hfound, hfew⟩
    obtain rfl := Option.some.inj (hfind.symm.trans hfound)
    exact absurd hfew (Nat.lt_irrefl 1)
  · exact ((hdecided blank).2.1 uniqueCheck hfind).2 (Nat.le_refl 1)

end PayloadCheck.Check
