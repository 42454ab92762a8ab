import Mathlib.Logic.Basic
import PayloadCheck.Proofs.Check.Skipped

/-!
# What demands a value

Four rules demand a value of a field depending on which other fields have one: if any of them has,
if all have, if any has none, if none has. Over a payload in which the other fields can be looked
up, each of them fails just where the value is missing and the demand is made
(`demands_decide`), so that on a missing value the rules `with` one quantifier and `without` the
other contradict each other.
-/

namespace PayloadCheck.Check

open PayloadCheck.Rule PayloadCheck.Presence

/-- A field has a value: what is found under its name among the data, else among the files, is
present. -/
def Bags.Has (b : Bags) (field : String) : Prop :=
  ∃ v, b.value field = .ok v ∧ v.isPresent field = true

/-- The rules that demand a value depending on other fields. -/
inductive Demand where
  | withAny
  | withAll
  | withoutAny
  | withoutAll

namespace Demand

/-- The name of the rule. -/
def name : Demand → String
  | withAny => "required_with"
  | withAll => "required_with_all"
  | withoutAny => "required_without"
  | withoutAll => "required_without_all"

/-- The key of the rule. -/
def key : Demand → String
  | withAny => "requiredwith"
  | withAll => "requiredwithall"
  | withoutAny => "requiredwithout"
  | withoutAll => "requiredwithoutall"

/-- When a value is demanded. -/
def Made (b : Bags) (others : List String) : Demand → Prop
  | withAny => ∃ other ∈ others, b.Has other
  | withAll => ∀ other ∈ others, b.Has other
  | withoutAny => ∃ other ∈ others, ¬ b.Has other
  | withoutAll => ∀ other ∈ others, ¬ b.Has other

/-- How the check of the rule finds out. -/
def condition (c : Context) (others : List String) : Demand → Except Fault Bool
  | withAny => (!·) <$> allMissing c others
  | withAll => (!·) <$> anyMissing c others
  | withoutAny => anyMissing c others
  | withoutAll => allMissing c others

/-- The check of the rule. -/
def check (d : Demand) : Check :=
  .deciding d.name 1 fun c field v ps => presentIf (d.condition c ps) field v

theorem check_mem (d : Demand) : d.check ∈ requiredChecks := by
  cases d <;> simp [requiredChecks, check, name, condition]

theorem key_name (d : Demand) : Rule.key d.name = d.key := by
  cases d <;> exact key_of_chars (by decide)

theorem key_mem (d : Demand) : Rule.key d.name ∈ implicitKeys := by
  rw [key_name]
  cases d <;> decide

variable {b : Bags} {others : List String}

theorem made_withAny_iff : withAny.Made b others ↔ ¬ withoutAll.Made b others := by
  simp [Made]

theorem made_withAll_iff : withAll.Made b others ↔ ¬ withoutAny.Made b others := by
  simp [Made]

theorem made_withAny_of_withAll (hne : others ≠ []) (h : withAll.Made b others) :
    withAny.Made b others := by
  obtain ⟨other, hother⟩ := List.exists_mem_of_ne_nil others hne
  exact ⟨other, hother, h other hother⟩

end Demand

/-! ### The other fields -/

section

variable {c : Context} {field : String} {v : Value} {others : List String}

theorem isFieldPresent_of_value (h : c.bags.value field = .ok v) :
    ∃ b, isFieldPresent c field = .ok b ∧ (b = true ↔ c.bags.Has field) := by
  refine ⟨v.isPresent field, ?_, ?_⟩
  · simp only [isFieldPresent, Context.value, h]
    rfl
  · simp [Bags.Has, h]

theorem allMissing_of_read (h : ∀ other ∈ others, ∃ w, c.bags.value other = .ok w) :
    ∃ b, allMissing c others = .ok b ∧ (b = true ↔ ∀ other ∈ others, ¬ c.bags.Has other) := by
  induction others with
  | nil => exact ⟨true, rfl, by simp⟩
  | cons other rest ih =>
    obtain ⟨⟨w, hw⟩, hrest⟩ := List.forall_mem_cons.mp h
    obtain ⟨present, hpresent, hhas⟩ := isFieldPresent_of_value hw
    rw [List.forall_mem_cons, ← hhas, allMissing, hpresent]
    cases present with
    | true => exact ⟨false, rfl, by simp⟩
    | false =>
      obtain ⟨b, hb, hall⟩ := ih hrest
      exact ⟨b, hb, by simp [hall]⟩

theorem anyMissing_of_read (h : ∀ other ∈ others, ∃ w, c.bags.value other = .ok w) :
    ∃ b, anyMissing c others = .ok b ∧ (b = true ↔ ∃ other ∈ others, ¬ c.bags.Has other) := by
  induction others with
  | nil => exact ⟨false, rfl, by simp⟩
  | cons other rest ih =>
    obtain ⟨⟨w, hw⟩, hrest⟩ := List.forall_mem_cons.mp h
    obtain ⟨present, hpresent, hhas⟩ := isFieldPresent_of_value hw
    simp only [List.mem_cons, exists_eq_or_imp, ← hhas, anyMissing, hpresent]
    cases present with
    | true =>
      obtain ⟨b, hb, hany⟩ := ih hrest
      exact ⟨b, hb, by simp [hany]⟩
    | false => exact ⟨true, rfl, by simp⟩

theorem presentIf_ok (demanded : Bool) (field : String) (v : Value) :
    presentIf (.ok demanded) field v = .ok (!demanded || v.isPresent field) := by
  cases demanded <;> rfl

theorem Demand.condition_eq (d : Demand)
    (h : ∀ other ∈ others, ∃ w, c.bags.value other = .ok w) :
    ∃ demanded, d.condition c others = .ok demanded ∧
      (demanded = true ↔ d.Made c.bags others) := by
  obtain ⟨allGone, hall, hallIff⟩ := allMissing_of_read h
  obtain ⟨anyGone, hany, hanyIff⟩ := anyMissing_of_read h
  cases d with
  | withAny =>
    refine ⟨!allGone, by rw [condition, hall]; rfl, ?_⟩
    rw [made_withAny_iff, Made, ← hallIff]
    simp
  | withAll =>
    refine ⟨!anyGone, by rw [condition, hany]; rfl, ?_⟩
    rw [made_withAll_iff, Made, ← hanyIff]
    simp
  | withoutAny => exact ⟨anyGone, hany, hanyIff⟩
  | withoutAll => exact ⟨allGone, hall, hallIff⟩

end

/-! ### The four rules -/

/-- A rule whose key is that of a demand decides: it is satisfied if the value is present or is not
demanded. -/
theorem Engine.dispatch_demand {resolves : List Char → Bool} {e : Engine}
    (hcatalogue : e.catalogue = builtinFor resolves) (verifier : Option Verifier) (field : String)
    (v : Value) (j : Journal) {d : Demand} {rule : Spec} (hkey : rule.key = Rule.key d.name)
    (hne : rule.parameters ≠ [])
    (hread : ∀ other ∈ rule.parameters, ∃ w, e.bags.value other = .ok w) :
    ∃ passes, (e.dispatch verifier field v rule j).1 = .ok passes ∧
      (passes = false ↔ v.isPresent field = false ∧ d.Made e.bags rule.parameters) := by
  obtain ⟨demanded, hcondition, hmade⟩ :=
    d.condition_eq (c := e.context verifier.isSome) hread
  refine ⟨!demanded || v.isPresent field, ?_, ?_⟩
  · rw [dispatch_builtin hcatalogue (requiredChecks_subset resolves d.check_mem) hkey
      (List.length_pos_iff.mpr hne)]
    simp only [hcondition, presentIf_ok]
  · change demanded = true ↔ d.Made e.bags rule.parameters at hmade
    rw [← hmade]
    cases demanded <;> cases v.isPresent field <;> decide

/-- A rule whose key is that of a demand is run for every value, but for `sometimes`. -/
theorem skip?_demand {d : Demand} {rule : Spec} (hkey : rule.key = Rule.key d.name) (field : String)
    (v : Value) {rules : List Spec} (hunmarked : isSometimes rules = false) (submitted : Bool) :
    skip? rule field v rules submitted = none := by
  have himplicit : isImplicit rule = true := isImplicit_iff.mpr (hkey ▸ d.key_mem)
  simp [skip?, hunmarked, himplicit]

/-- **Demands on values.** Each of the four rules, in any spelling of its name and over any other
    fields that can be looked up, decides, and fails just where the value is missing and some or
    all of the other fields have a value, or some or none. On a missing value therefore one of
    `required_with` and `required_without_all` fails and one of `required_with_all` and
    `required_without`, and where `required_with_all` fails so does `required_with`. On a present
    value none fails. Without a rule `sometimes` all four are run, missing value or not. -/
theorem demands_decide {resolves : List Char → Bool} {e : Engine}
    (hcatalogue : e.catalogue = builtinFor resolves) {others : List String} (hne : others ≠ [])
    (hread : ∀ other ∈ others, ∃ w, e.bags.value other = .ok w) {spelled : Demand → String}
    (hspelled : ∀ d, Rule.key (spelled d) = Rule.key d.name) (verifier : Option Verifier)
    (field : String) (v : Value) (j : Journal) :
    let verdict := fun d => (e.dispatch verifier field v ⟨spelled d, others⟩ j).1
    let fails := fun d => verdict d = .ok false
    let missing := v.isPresent field = false
    (∀ d, fails d ∨ verdict d = .ok true) ∧
    (fails .withAny ↔ missing ∧ ∃ other ∈ others, e.bags.Has other) ∧
    (fails .withAll ↔ missing ∧ ∀ other ∈ others, e.bags.Has other) ∧
    (fails .withoutAny ↔ missing ∧ ∃ other ∈ others, ¬ e.bags.Has other) ∧
    (fails .withoutAll ↔ missing ∧ ∀ other ∈ others, ¬ e.bags.Has other) ∧
    (missing → Xor (fails .withAny) (fails .withoutAll) ∧
      Xor (fails .withAll) (fails .withoutAny)) ∧
    (fails .withAll → fails .withAny) ∧
    (¬ missing → ∀ d, verdict d = .ok true) ∧
    ∀ rules, isSometimes rules = false → ∀ d submitted,
      skip? ⟨spelled d, others⟩ field v rules submitted = none := by
  intro verdict fails missing
  have hkey : ∀ d, Spec.key ⟨spelled d, others⟩ = Rule.key d.name := hspelled
  have hdecided : ∀ d, ∃ passes, verdict d = .ok passes ∧
      (passes = false ↔ missing ∧ d.Made e.bags others) := by
    intro d
    exact Engine.dispatch_demand hcatalogue verifier field v j (hkey d) hne hread
  have hfails : ∀ d, fails d ↔ missing ∧ d.Made e.bags others := by
    intro d
    obtain ⟨passes, hverdict, hpasses⟩ := hdecided d
    rw [← hpasses]
    simp only [fails, hverdict, Except.ok.injEq]
  have htotal : ∀ d, fails d ∨ verdict d = .ok true := by
    intro d
    obtain ⟨passes, hverdict, -⟩ := hdecided d
    cases passes with
    | false => exact Or.inl hverdict
    | true => exact Or.inr hverdict
  refine ⟨htotal, hfails _, hfails _, hfails _, hfails _, ?_, ?_, ?_, ?_⟩
  · intro hmissing
    simp only [hfails, hmissing, true_and, Demand.made_withAny_iff, Demand.made_withAll_iff]
    exact ⟨xor_iff_iff_not.mpr Iff.rfl, xor_iff_iff_not.mpr Iff.rfl⟩
  · intro hall
    obtain ⟨hmissing, hmade⟩ := (hfails _).mp hall
    exact (hfails _).mpr ⟨hmissing, Demand.made_withAny_of_withAll hne hmade⟩
  · intro hpresent d
    rcases htotal d with hfailed | hpassed
    · exact absurd ((hfails d).mp hfailed).1 hpresent
    · exact hpassed
  · intro rules hunmarked d submitted
    exact skip?_demand (hkey d) field v hunmarked submitted

/-- A name under a path has a value, and an upload without a file has none: two of the four rules
fail on a missing value. -/
theorem demands_decide_mixed :
    let user : Value := .map [(.text "name", .text "li")]
    let e : Engine := ⟨"adhoc", [],
      builtin, .ofPayload [("user", user), ("icon", .upload ⟨"", 0, false, none, none⟩)],
      ⟨[], []⟩, default⟩
    let verdict := fun d : Demand =>
      (e.dispatch none "email" .absent ⟨d.name, ["user.name", "icon"]⟩ ⟨[], []⟩).1
    verdict .withAny = .ok false ∧ verdict .withAll = .ok true ∧
      verdict .withoutAny = .ok false ∧ verdict .withoutAll = .ok true := by
  -- kept closed, for its keys are computed by the tables of all letters
  generalize hcatalogue : builtin = catalogue
  intro user e verdict
  have hname : e.bags.value "user.name" = .ok (.text "li") := by rfl
  have hicon : e.bags.value "icon" = .ok (.upload ⟨"", 0, false, none, none⟩) := by rfl
  have hhas : e.bags.Has "user.name" := ⟨_, hname, by decide⟩
  have hhasNot : ¬ e.bags.Has "icon" := by
    rintro ⟨v, hv, hpresent⟩
    cases hicon.symm.trans hv
    simp [Value.isPresent] at hpresent
  have hread : ∀ other ∈ ["user.name", "icon"], ∃ w, e.bags.value other = .ok w := by
    simp [hname, hicon]
  obtain ⟨htotal, hany, hall, hanyNot, hallNot, -⟩ :=
    demands_decide (e := e) hcatalogue.symm (List.cons_ne_nil _ _) hread
      (fun d => rfl : ∀ d : Demand, Rule.key d.name = Rule.key d.name) none "email" .absent ⟨[], []⟩
  refine ⟨hany.mpr ⟨rfl, "user.name", by simp, hhas⟩, ?_,
    hanyNot.mpr ⟨rfl, "icon", by simp, hhasNot⟩, ?_⟩
  · rcases htotal .withAll with hfailed | hpassed
    · exact absurd ((hall.mp hfailed).2 "icon" (by simp)) hhasNot
    · exact hpassed
  · rcases htotal .withoutAll with hfailed | hpassed
    · exact absurd hhas ((hallNot.mp hfailed).2 "user.name" (by simp))
    · exact hpassed

end PayloadCheck.Check
