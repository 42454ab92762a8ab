import PayloadCheck.Report.Metrics

/-!
# Metrics as counts of events

Each event is counted as what it tells of: an ending, a fault, a decision or a failed rule. What a
tally holds in the end is how many of the events tell of it (`Metrics.count_ofEvents`).
-/

namespace PayloadCheck.Report

/-! ## What an event is counted as -/

namespace Event

/-- The ending of a pass or a construction that an event tells of. -/
def ending? : Event → Option (String × Ending)
  | misconfigured ruleSet _ _ => some (ruleSet, .aborted)
  | passEnded ruleSet _ failures => some (ruleSet, if failures = 0 then .passed else .failed)
  | _ => none

/-- The label of the fault that an event tells of. -/
def faultLabel? : Event → Option String
  | misconfigured _ _ fault => some fault.label
  | _ => none

/-- The decision on a rule that an event tells of. -/
def decision? : Event → Option (String × Bool)
  | considered _ rule skip => some (rule, skip.isNone)
  | _ => none

/-- The failed rule that an event tells of. -/
def failure? : Event → Option (String × String)
  | failed ruleSet rule => some (ruleSet, rule)
  | _ => none

/-- Whether an event is one of those of a construction or a pass itself, as against those of the
store. -/
def isOfPass : Event → Bool
  | considered .. | failed .. | misconfigured .. | passEnded .. => true
  | _ => false

theorem marks_of_not_ofPass {event : Event} (h : event.isOfPass = false) :
    event.ending? = none ∧ event.faultLabel? = none ∧ event.decision? = none ∧
      event.failure? = none := by
  cases event with
  | considered | failed | misconfigured | passEnded => simp [isOfPass] at h
  | _ => exact ⟨rfl, rfl, rfl, rfl⟩

end Event

namespace Metrics

section

variable {α : Type} [DecidableEq α]
variable (tally : Metrics → Tally α) (mark : Event → Option α)

theorem total_foldl (hnote : ∀ m event, tally (m.note event) = (tally m).addAny (mark event))
    (m : Metrics) (events : List Event) :
    (tally (events.foldl note m)).total = (tally m).total + (events.filterMap mark).length := by
  induction events generalizing m with
  | nil => simp
  | cons event rest ih =>
    rw [List.foldl_cons, ih, hnote]
    cases hmark : mark event with
    | none => rw [List.filterMap_cons_none hmark, Tally.addAny]
    | some b =>
      rw [List.filterMap_cons_some hmark, Tally.addAny, Tally.total_add, List.length_cons]
      omega

theorem total_ofEvents (hnote : ∀ m event, tally (m.note event) = (tally m).addAny (mark event))
    (hempty : tally {} = {}) (events : List Event) :
    (tally (ofEvents events)).total = (events.filterMap mark).length := by
  rw [ofEvents, total_foldl tally mark hnote, hempty]
  exact Nat.zero_add _

variable [BEq α] [LawfulBEq α]

/-- A tally that notes the marks of events counts them. -/
theorem count_foldl (hnote : ∀ m event, tally (m.note event) = (tally m).addAny (mark event))
    (m : Metrics) (events : List Event) (a : α) :
    (tally (events.foldl note m)).count a = (tally m).count a + (events.filterMap mark).count a := by
  induction events generalizing m with
  | nil => simp
  | cons event rest ih =>
    rw [List.foldl_cons, ih, hnote]
    cases hmark : mark event with
    | none => rw [List.filterMap_cons_none hmark, Tally.addAny]
    | some b =>
      rw [List.filterMap_cons_some hmark, Tally.addAny, Tally.count_add, List.count_cons]
      simp only [beq_iff_eq]
      omega

/-- A tally that is empty at first counts the marks of all events. -/
theorem count_ofEvents (hnote : ∀ m event, tally (m.note event) = (tally m).addAny (mark event))
    (hempty : tally {} = {}) (events : List Event) (a : α) :
    (tally (ofEvents events)).count a = (events.filterMap mark).count a := by
  rw [ofEvents, count_foldl tally mark hnote, hempty]
  exact Nat.zero_add _

end

theorem passes_note (m : Metrics) (event : Event) :
    (m.note event).passes = m.passes.addAny event.ending? := by
  cases event with
  | passEnded ruleSet fields failures => cases failures <;> rfl
  | _ => rfl

theorem faults_note (m : Metrics) (event : Event) :
    (m.note event).faults = m.faults.addAny event.faultLabel? := by
  cases event <;> rfl

theorem decisions_note (m : Metrics) (event : Event) :
    (m.note event).decisions = m.decisions.addAny event.decision? := by
  cases event <;> rfl

theorem ruleFailures_note (m : Metrics) (event : Event) :
    (m.note event).ruleFailures = m.ruleFailures.addAny event.failure? := by
  cases event <;> rfl

end Metrics

end PayloadCheck.Report
