import Mathlib.Algebra.Ring.Nat
import PayloadCheck.Check.Session
import PayloadCheck.Presence.Database
import PayloadCheck.Proofs.Check.Pass
import PayloadCheck.Proofs.Report.Metrics

/-!
# What is counted of constructions and passes

Whatever is built and validated, the metrics count each construction that is refused and each pass
that is run once, by how it came out: the ending, the decisions on its rules and the failures that
it recorded, also when a fault ends it. An outcome that is kept is given again without being
counted. Main statement: `metrics_account_for`.
-/

namespace PayloadCheck.Presence

open PayloadCheck.Report

/-- A store that tells of what it does itself, and of no pass. -/
def Verifier.Quiet (v : Verifier) : Prop :=
  ∀ asked q, ∀ event ∈ (v.reply asked q).events, event.isOfPass = false

theorem Database.verifier_quiet (db : Database) (schema : Option String) :
    (db.verifier schema).Quiet := by
  intro asked q event hevent
  unfold Database.verifier at hevent
  cases hstatement : Statement.ofQuery schema q with
  | error fault => simp [hstatement] at hevent
  | ok found =>
    cases found with
    | none => simp [hstatement] at hevent
    | some s =>
      simp only [hstatement, Database.count] at hevent
      split at hevent
      · rw [List.mem_singleton.mp hevent]
        rfl
      · rw [List.mem_singleton.mp hevent]
        rfl

end PayloadCheck.Presence

namespace PayloadCheck.Check

open PayloadCheck.Presence PayloadCheck.Report PayloadCheck.Rule PayloadCheck.Time

/-! ## What a pass tells of itself -/

namespace Engine

variable {e : Engine} {verifier : Option Verifier}

/-- Whether the failure of a rule is recorded: the rule fails, and there is a message. -/
def records (e : Engine) (verifier : Option Verifier) (asked : List Query) (p : Pair) : Bool :=
  e.fails verifier asked p && (e.fault? verifier asked p).isNone

/-- The rules whose failures are recorded before the pass ends, in order. -/
def recorded (e : Engine) (verifier : Option Verifier) (asked : List Query) (ps : List Pair) :
    List Pair :=
  ((e.withHistory verifier asked (e.reached verifier asked ps)).filter
    fun (before, p) => e.records verifier before p).map Prod.snd

/-- The decision whether a rule is run, if the value of its field can be looked up. -/
def decision? (e : Engine) (p : Pair) : Option (String × Bool) :=
  match e.bags.value p.1 with
  | .error _ => none
  | .ok v => some (p.2.1.readable, applies p v)

/-- What one step of a pass tells of itself. -/
def told (e : Engine) (verifier : Option Verifier) (asked : List Query) (p : Pair) : List Event :=
  match e.bags.value p.1 with
  | .error _ => []
  | .ok v =>
    .considered p.1 p.2.1.readable (skip? p.2.1 p.1 v p.2.2 (!v.isAbsent)) ::
      if e.records verifier asked p then [.failed e.name p.2.1.readable] else []

end Engine

/-- The events of a journal that are of the pass itself. -/
def Journal.ofPass (j : Journal) : List Event := j.events.filter Event.isOfPass

theorem Journal.ofPass_note (j : Journal) (event : Event) :
    (j.note event).ofPass = j.ofPass ++ if event.isOfPass then [event] else [] := by
  unfold Journal.ofPass Journal.note
  cases h : event.isOfPass <;> simp [h]

theorem ofPass_ask {store : Verifier} (hquiet : store.Quiet) (q : Query) (j : Journal) :
    (ask store q j).2.ofPass = j.ofPass := by
  have hreply : (j.noteReply q (store.reply j.asked q)).ofPass = j.ofPass := by
    unfold Journal.ofPass Journal.noteReply
    rw [List.filter_append]
    have hnone : (store.reply j.asked q).events.filter Event.isOfPass = [] := by
      rw [List.filter_eq_nil_iff]
      intro event hevent
      simp [hquiet j.asked q event hevent]
    rw [hnone, List.append_nil]
  unfold ask
  cases hanswer : (store.reply j.asked q).answer.bind countOf with
  | ok count =>
    simp only [hanswer]
    exact hreply
  | error fault =>
    cases hown : fault.isOwn with
    | true =>
      simp only [hanswer, hown, if_true]
      exact hreply
    | false =>
      simp only [hanswer, hown, Bool.false_eq_true, if_false]
      rw [Journal.ofPass_note, hreply]
      exact List.append_nil _

namespace Engine

variable {e : Engine} {verifier : Option Verifier}

theorem ofPass_dispatch (hquiet : ∀ store, verifier = some store → store.Quiet) (field : String)
    (v : Value) (rule : Spec) (j : Journal) :
    (e.dispatch verifier field v rule j).2.ofPass = j.ofPass := by
  unfold dispatch
  cases e.catalogue.lookUp rule field with
  | error fault => rfl
  | ok check =>
    by_cases hfew : rule.parameters.length < check.arity
    · simp [hfew]
    · simp only [hfew, if_false]
      cases check.run (e.context verifier.isSome) field v rule.parameters with
      | decided b => rfl
      | refused fault => rfl
      | asks q judge =>
        cases verifier with
        | none => rfl
        | some store => exact ofPass_ask (hquiet store rfl) q j

theorem records_eq_false_of_error {asked : List Query} {p : Pair} {fault : Fault}
    (h : e.judgement verifier asked p = .error fault) : e.records verifier asked p = false := by
  simp [records, fails, h]

section

variable {p : Pair} {v : Value}

theorem evaluate_of_skip {reason : Skip} (hvalue : e.bags.value p.1 = .ok v)
    (hskip : skip? p.2.1 p.1 v p.2.2 (!v.isAbsent) = some reason) (record : Record) (j : Journal) :
    e.evaluate verifier p.1 p.2.1 p.2.2 record j =
      (.ok record, j.note (.considered p.1 p.2.1.readable (some reason))) := by
  simp [evaluate, hvalue, hskip]

theorem evaluate_of_run (hvalue : e.bags.value p.1 = .ok v)
    (hskip : skip? p.2.1 p.1 v p.2.2 (!v.isAbsent) = none) (record : Record) (j : Journal) :
    e.evaluate verifier p.1 p.2.1 p.2.2 record j =
      match e.dispatch verifier p.1 v p.2.1 (j.note (.considered p.1 p.2.1.readable none)) with
      | (.error fault, j) => (.error fault, j)
      | (.ok true, j) => (.ok record, j)
      | (.ok false, j) => match record.add e.messages p.1 p.2.1 with
        | .error fault => (.error fault, j)
        | .ok record => (.ok record, j.note (.failed e.name p.2.1.readable)) := by
  rw [evaluate, hvalue]
  dsimp only
  rw [hskip]
  exact if_neg Bool.false_ne_true

end

/-- One step of a pass tells of its decision, and of a failure if one is recorded. -/
theorem ofPass_evaluate (hquiet : ∀ store, verifier = some store → store.Quiet) (p : Pair)
    (record : Record) (j : Journal) :
    (e.evaluate verifier p.1 p.2.1 p.2.2 record j).2.ofPass =
      j.ofPass ++ e.told verifier j.asked p := by
  unfold told
  cases hvalue : e.bags.value p.1 with
  | error fault => simp [evaluate, hvalue]
  | ok v =>
    cases hskip : skip? p.2.1 p.1 v p.2.2 (!v.isAbsent) with
    | some reason =>
      have hrecords : e.records verifier j.asked p = false := by
        simp [records, fails, judgement, hvalue, applies, hskip]
      rw [evaluate_of_skip hvalue hskip, Journal.ofPass_note]
      simp [hskip, hrecords, Event.isOfPass]
    | none =>
      have happlies : applies p v = true := by simp [applies, hskip]
      have hjudged : e.judgement verifier j.asked p =
          some <$> e.answer verifier j.asked p.1 v p.2.1 := by
        simp [judgement, hvalue, happlies]
      rw [evaluate_of_run hvalue hskip]
      simp only [hskip]
      -- the check tells of nothing, and what it answers is the judgement
      obtain ⟨hanswer, -⟩ := dispatch_eq e verifier p.1 v p.2.1
        (j.note (.considered p.1 p.2.1.readable none))
      have htold := ofPass_dispatch (e := e) hquiet p.1 v p.2.1
        (j.note (.considered p.1 p.2.1.readable none))
      rw [Journal.ofPass_note] at htold
      generalize e.dispatch verifier p.1 v p.2.1 (j.note (.considered p.1 p.2.1.readable none)) =
        dispatched at hanswer htold ⊢
      obtain ⟨result, after⟩ := dispatched
      change result = e.answer verifier j.asked p.1 v p.2.1 at hanswer
      change after.ofPass = j.ofPass ++ [.considered p.1 p.2.1.readable none] at htold
      rw [← hanswer] at hjudged
      cases result with
      | error fault =>
        have hrecords : e.records verifier j.asked p = false := records_eq_false_of_error hjudged
        simp [hrecords, htold]
      | ok b =>
        cases b with
        | true =>
          have hrecords : e.records verifier j.asked p = false := by
            simp [records, no_fault_of_satisfied hjudged]
          simp [hrecords, htold]
        | false =>
          cases hmessage : e.messages.resolve p.1 p.2.1 with
          | error fault =>
            have hrecords : e.records verifier j.asked p = false := by
              simp [records, fault?_of_no_message hjudged hmessage]
            have hadd : record.add e.messages p.1 p.2.1 = .error fault :=
              Fault.bind_eq_error_iff.mpr (Or.inl hmessage)
            simp [hadd, hrecords, htold]
          | ok text =>
            have hrecords : e.records verifier j.asked p = true := by
              simp [records, no_fault_of_message hjudged hmessage]
            obtain ⟨added, hadd⟩ : ∃ added, record.add e.messages p.1 p.2.1 = .ok added :=
              ⟨_, Fault.bind_eq_ok_iff.mpr ⟨text, hmessage, rfl⟩⟩
            simp [hadd, hrecords, Journal.ofPass_note, htold, Event.isOfPass]

/-! ## What is told up to the end -/

theorem reached_of_no_fault {asked : List Query} {ps : List Pair}
    (h : e.firstFault? verifier asked ps = none) : e.reached verifier asked ps = ps := by
  induction ps generalizing asked with
  | nil => rfl
  | cons p rest ih =>
    rw [firstFault?_cons] at h
    obtain ⟨hfault, hrest⟩ := Option.or_eq_none_iff.mp h
    rw [reached_cons_of_no_fault rest hfault, ih hrest]

/-- What the steps of a pass tell of it. -/
def allTold (e : Engine) (verifier : Option Verifier) (asked : List Query) (ps : List Pair) :
    List Event :=
  (e.withHistory verifier asked (e.reached verifier asked ps)).flatMap
    fun (before, p) => e.told verifier before p

theorem allTold_cons_of_fault {asked : List Query} {p : Pair} (rest : List Pair) {fault : Fault}
    (h : e.fault? verifier asked p = some fault) :
    e.allTold verifier asked (p :: rest) = e.told verifier asked p := by
  simp [allTold, reached_cons_of_fault rest h, withHistory]

theorem allTold_cons_of_no_fault {asked : List Query} {p : Pair} (rest : List Pair)
    (h : e.fault? verifier asked p = none) :
    e.allTold verifier asked (p :: rest) = e.told verifier asked p ++
      e.allTold verifier (asked ++ (e.callOf? verifier p).toList) rest := by
  simp [allTold, reached_cons_of_no_fault rest h, withHistory]

theorem ofPass_evaluateAll (hquiet : ∀ store, verifier = some store → store.Quiet) (ps : List Pair)
    (record : Record) (j : Journal) :
    (e.evaluateAll verifier ps record j).2.ofPass = j.ofPass ++ e.allTold verifier j.asked ps := by
  induction ps generalizing record j with
  | nil => simp [evaluateAll, allTold, reached, withHistory]
  | cons p rest ih =>
    cases hfault : e.fault? verifier j.asked p with
    | some fault =>
      rw [evaluateAll_cons_of_fault rest record hfault, allTold_cons_of_fault rest hfault]
      exact ofPass_evaluate hquiet p record j
    | none =>
      obtain ⟨added, hstep, -, -⟩ := evaluate_of_no_fault record hfault
      rw [evaluateAll_cons_of_ok rest hstep, ih, ofPass_evaluate hquiet,
        (evaluate_eq e verifier p record j).2, allTold_cons_of_no_fault rest hfault,
        List.append_assoc]

/-- What a pass tells of its end. -/
def endTold (e : Engine) : Except Fault Outcome → List Event
  | .ok o => [.passEnded e.name e.rules.length o.failures.length]
  | .error fault => if fault.isConfiguration then [.misconfigured e.name .pass fault] else []

theorem ofPass_run (hquiet : ∀ store, verifier = some store → store.Quiet) (asked : List Query) :
    (e.run verifier asked).2.ofPass =
      e.allTold verifier asked (pairs e.rules) ++ e.endTold (e.run verifier asked).1 := by
  have htold : (e.evaluateAll verifier (pairs e.rules) {} { asked }).2.ofPass =
      e.allTold verifier asked (pairs e.rules) := ofPass_evaluateAll hquiet _ _ _
  unfold run
  generalize e.evaluateAll verifier (pairs e.rules) {} { asked } = ended at htold
  obtain ⟨result, j⟩ := ended
  change j.ofPass = _ at htold
  cases result with
  | ok record =>
    simp only [endTold]
    rw [Journal.ofPass_note, htold]
    rfl
  | error fault =>
    cases hcounted : fault.isConfiguration with
    | true =>
      simp only [endTold, hcounted, if_true]
      rw [Journal.ofPass_note, htold]
      rfl
    | false => simp [endTold, hcounted, htold]

end Engine

/-! ## Reading what is told -/

theorem filterMap_ofPass {α : Type} {mark : Event → Option α}
    (hmark : ∀ event, event.isOfPass = false → mark event = none) (events : List Event) :
    (events.filter Event.isOfPass).filterMap mark = events.filterMap mark := by
  rw [List.filterMap_filter]
  congr 1
  funext event
  cases h : event.isOfPass with
  | true => simp
  | false => simp [hmark event h]

namespace Engine

variable {e : Engine} {verifier : Option Verifier}

/-- Marks that single steps leave, one after the other, are those of all steps. -/
theorem filterMap_allTold {α : Type} {mark : Event → Option α}
    (marks : List Query → Pair → List α)
    (hstep : ∀ asked p, (e.told verifier asked p).filterMap mark = marks asked p)
    (asked : List Query) (ps : List Pair) :
    (e.allTold verifier asked ps).filterMap mark =
      (e.withHistory verifier asked (e.reached verifier asked ps)).flatMap
        fun (before, p) => marks before p := by
  unfold allTold
  generalize e.withHistory verifier asked (e.reached verifier asked ps) = steps
  induction steps with
  | nil => rfl
  | cons step rest ih => simp only [List.flatMap_cons, List.filterMap_append, hstep, ih]

theorem told_cases (e : Engine) (verifier : Option Verifier) (asked : List Query) (p : Pair) :
    (e.decision? p = none ∧ e.records verifier asked p = false ∧ e.told verifier asked p = []) ∨
    ∃ skip, e.decision? p = some (p.2.1.readable, skip.isNone) ∧ e.told verifier asked p =
      .considered p.1 p.2.1.readable skip ::
        if e.records verifier asked p then [.failed e.name p.2.1.readable] else [] := by
  cases hvalue : e.bags.value p.1 with
  | error fault =>
    left
    have hjudged : e.judgement verifier asked p = .error fault := by simp [judgement, hvalue]
    exact ⟨by simp [decision?, hvalue], records_eq_false_of_error hjudged, by simp [told, hvalue]⟩
  | ok v =>
    right
    exact ⟨skip? p.2.1 p.1 v p.2.2 (!v.isAbsent), by simp [decision?, hvalue, applies],
      by simp [told, hvalue]⟩

theorem filterMap_snd_withHistory {α : Type} (f : Pair → Option α) (asked : List Query)
    (ps : List Pair) : (e.withHistory verifier asked ps).flatMap (fun (_, p) => (f p).toList) =
      ps.filterMap f := by
  induction ps generalizing asked with
  | nil => rfl
  | cons p rest ih =>
    rw [withHistory_cons, List.flatMap_cons, ih]
    cases h : f p with
    | none => simp [h]
    | some a => simp [h]

theorem decisions_allTold (e : Engine) (verifier : Option Verifier) (asked : List Query)
    (ps : List Pair) : (e.allTold verifier asked ps).filterMap Event.decision? =
      (e.reached verifier asked ps).filterMap e.decision? := by
  rw [filterMap_allTold fun _ p => (e.decision? p).toList]
  · exact filterMap_snd_withHistory e.decision? asked _
  · intro asked p
    rcases told_cases e verifier asked p with ⟨hnone, -, htold⟩ | ⟨skip, hsome, htold⟩
    · simp [hnone, htold]
    · rw [hsome, htold]
      cases e.records verifier asked p <;> simp [Event.decision?]

theorem failures_allTold (e : Engine) (verifier : Option Verifier) (asked : List Query)
    (ps : List Pair) : (e.allTold verifier asked ps).filterMap Event.failure? =
      (e.recorded verifier asked ps).map fun p => (e.name, p.2.1.readable) := by
  rw [filterMap_allTold fun before p =>
    if e.records verifier before p then [(e.name, p.2.1.readable)] else []]
  · unfold recorded
    generalize e.withHistory verifier asked (e.reached verifier asked ps) = steps
    induction steps with
    | nil => rfl
    | cons step rest ih =>
      obtain ⟨before, p⟩ := step
      cases h : e.records verifier before p <;> simp [h, ih]
  · intro asked p
    rcases told_cases e verifier asked p with ⟨-, hnone, htold⟩ | ⟨skip, -, htold⟩
    · simp [hnone, htold]
    · rw [htold]
      cases e.records verifier asked p <;> rfl

/-- Steps tell nothing that has no marks in them. -/
theorem filterMap_allTold_eq_nil {α : Type} {mark : Event → Option α}
    (hconsidered : ∀ field rule skip, mark (.considered field rule skip) = none)
    (hfailed : ∀ ruleSet rule, mark (.failed ruleSet rule) = none) (asked : List Query)
    (ps : List Pair) : (e.allTold verifier asked ps).filterMap mark = [] := by
  rw [filterMap_allTold fun _ _ => []]
  · simp
  · intro asked p
    rcases told_cases e verifier asked p with ⟨-, -, htold⟩ | ⟨skip, -, htold⟩
    · rw [htold]
      rfl
    · rw [htold]
      cases e.records verifier asked p <;> simp [hconsidered, hfailed]

/-- A pass without a fault decides on every rule, and records the rules that fail. -/
theorem decision?_of_no_fault {asked : List Query} {p : Pair}
    (h : e.fault? verifier asked p = none) : ∃ decision, e.decision? p = some decision := by
  unfold fault? judgement at h
  unfold decision?
  cases hvalue : e.bags.value p.1 with
  | error fault => simp [hvalue] at h
  | ok v => exact ⟨_, rfl⟩

theorem length_decisions_of_no_fault {asked : List Query} {ps : List Pair}
    (h : e.firstFault? verifier asked ps = none) :
    ((e.reached verifier asked ps).filterMap e.decision?).length = ps.length := by
  rw [reached_of_no_fault h]
  induction ps generalizing asked with
  | nil => rfl
  | cons p rest ih =>
    rw [firstFault?_cons] at h
    obtain ⟨hfault, hrest⟩ := Option.or_eq_none_iff.mp h
    obtain ⟨decision, hdecision⟩ := decision?_of_no_fault hfault
    rw [List.filterMap_cons_some hdecision, List.length_cons, List.length_cons, ih hrest]

theorem recorded_of_no_fault {asked : List Query} {ps : List Pair}
    (h : e.firstFault? verifier asked ps = none) :
    e.recorded verifier asked ps = e.failing verifier asked ps := by
  unfold recorded failing
  rw [reached_of_no_fault h]
  congr 1
  apply List.filter_congr
  intro step hstep
  have hfault : e.fault? verifier step.1 step.2 = none :=
    List.findSome?_eq_none_iff.mp h step hstep
  simp [records, hfault]

end Engine

/-! ## What is built and validated -/

/-- Something that is counted: a construction that is refused, or a pass that a session runs. -/
inductive Deed where
  | refused (ruleSet : String) (fault : Fault)
  | pass (s : Session)

namespace Deed

/-- The fault with which a deed ends. -/
def fault? : Deed → Option Fault
  | refused _ fault => some fault
  | pass s =>
    match s.validate.1 with
    | .ok _ => none
    | .error fault => some fault

/-- The fault of the configuration with which a deed ends. -/
def configurationFault? (d : Deed) : Option Fault := d.fault?.filter Fault.isConfiguration

/-- The rule set of a deed and how it ends: a pass is completed without failures or with some, or a
fault of the configuration ends it. Other faults are not counted. -/
def ending? (d : Deed) : Option (String × Ending) :=
  match d with
  | refused ruleSet _ => d.configurationFault?.map fun _ => (ruleSet, .aborted)
  | pass s =>
    match s.validate.1 with
    | .ok o => some (s.engine.name, if o.failures = [] then .passed else .failed)
    | .error _ => d.configurationFault?.map fun _ => (s.engine.name, .aborted)

/-- The decisions that a deed makes: one on every rule that it comes to, if the value of the field can
be looked up. -/
def decisions : Deed → List (String × Bool)
  | refused .. => []
  | pass s =>
    (s.engine.reached s.verifier s.asked (Engine.pairs s.engine.rules)).filterMap s.engine.decision?

/-- The failures that a deed records: those of rules that fail and have a message, up to the end. -/
def failures : Deed → List (String × String)
  | refused .. => []
  | pass s =>
    (s.engine.recorded s.verifier s.asked (Engine.pairs s.engine.rules)).map
      fun p => (s.engine.name, p.2.1.readable)

/-- What is told of a deed. -/
def told : Deed → List Event
  | refused ruleSet fault =>
    if fault.isConfiguration then [.misconfigured ruleSet .construction fault] else []
  | pass s =>
    s.engine.allTold s.verifier s.asked (Engine.pairs s.engine.rules) ++
      s.engine.endTold s.validate.1

theorem ending_told (d : Deed) : d.told.filterMap Event.ending? = d.ending?.toList := by
  cases d with
  | refused ruleSet fault =>
    cases h : fault.isConfiguration <;>
      simp [told, ending?, configurationFault?, fault?, h, Event.ending?, Option.filter_some]
  | pass s =>
    rw [told, List.filterMap_append,
      Engine.filterMap_allTold_eq_nil (fun _ _ _ => rfl) fun _ _ => rfl, List.nil_append]
    cases hresult : s.validate.1 with
    | ok o => simp [Engine.endTold, ending?, hresult, Event.ending?]
    | error fault =>
      cases h : fault.isConfiguration <;>
        simp [Engine.endTold, ending?, configurationFault?, fault?, hresult, h, Event.ending?,
          Option.filter_some]

theorem faultLabel_told (d : Deed) :
    d.told.filterMap Event.faultLabel? = (d.configurationFault?.map Fault.label).toList := by
  cases d with
  | refused ruleSet fault =>
    cases h : fault.isConfiguration <;>
      simp [told, configurationFault?, fault?, h, Event.faultLabel?, Option.filter_some]
  | pass s =>
    rw [told, List.filterMap_append,
      Engine.filterMap_allTold_eq_nil (fun _ _ _ => rfl) fun _ _ => rfl, List.nil_append]
    cases hresult : s.validate.1 with
    | ok o => simp [Engine.endTold, configurationFault?, fault?, hresult, Event.faultLabel?]
    | error fault =>
      cases h : fault.isConfiguration <;>
        simp [Engine.endTold, configurationFault?, fault?, hresult, h, Event.faultLabel?,
          Option.filter_some]

theorem filterMap_endTold {α : Type} {mark : Event → Option α}
    (hmisconfigured : ∀ ruleSet phase fault, mark (.misconfigured ruleSet phase fault) = none)
    (hended : ∀ ruleSet fields failures, mark (.passEnded ruleSet fields failures) = none)
    (e : Engine) (result : Except Fault Outcome) : (e.endTold result).filterMap mark = [] := by
  cases result with
  | ok o => simp [Engine.endTold, hended]
  | error fault => cases h : fault.isConfiguration <;> simp [Engine.endTold, h, hmisconfigured]

theorem decision_told (d : Deed) : d.told.filterMap Event.decision? = d.decisions := by
  cases d with
  | refused ruleSet fault =>
    cases h : fault.isConfiguration <;> simp [told, decisions, h, Event.decision?]
  | pass s =>
    rw [told, List.filterMap_append, Engine.decisions_allTold,
      filterMap_endTold (fun _ _ _ => rfl) fun _ _ _ => rfl, List.append_nil]
    rfl

theorem failure_told (d : Deed) : d.told.filterMap Event.failure? = d.failures := by
  cases d with
  | refused ruleSet fault =>
    cases h : fault.isConfiguration <;> simp [told, failures, h, Event.failure?]
  | pass s =>
    rw [told, List.filterMap_append, Engine.failures_allTold,
      filterMap_endTold (fun _ _ _ => rfl) fun _ _ _ => rfl, List.append_nil]
    rfl

/-- A completed pass decides on each of its rules, and records the failures of its outcome. -/
theorem of_completed {s : Session} {o : Outcome} (hnone : s.outcome = none)
    (h : s.validate.1 = .ok o) :
    (pass s).decisions.length = (Engine.pairs s.engine.rules).length ∧
      (pass s).failures = o.failures.map fun f => (s.engine.name, readable f.rule) := by
  rw [Session.result_of_none hnone, Engine.run_result] at h
  cases hfirst : s.engine.firstFault? s.verifier s.asked (Engine.pairs s.engine.rules) with
  | some fault => simp [hfirst] at h
  | none =>
    simp only [hfirst, Except.ok.injEq] at h
    subst h
    refine ⟨Engine.length_decisions_of_no_fault hfirst, ?_⟩
    rw [failures, Engine.recorded_of_no_fault hfirst]
    simp only [Engine.outcomeOf, List.map_map]
    rfl

end Deed

namespace Sessions

/-- What is counted of a request. An outcome that is kept is given again and not counted. -/
def deed? (ss : Sessions) : Request → Option Deed
  | .build setup _ =>
    match setup.build.1 with
    | .ok _ => none
    | .error fault => some (.refused setup.name fault)
  | .validate place now =>
    match ss[place]? with
    | none => none
    | some s => if s.outcome.isSome then none else some (.pass { s with engine.now := now })
  | .setVerifier .. => none

/-- What is counted of one request after another. -/
def history : List Request → Sessions → List Deed
  | [], _ => []
  | request :: rest, ss => (ss.deed? request).toList ++ history rest (ss.step request).2.1

/-- Sessions whose stores tell nothing of passes. -/
def Quiet (ss : Sessions) : Prop := ∀ s ∈ ss, ∀ store, s.verifier = some store → store.Quiet

end Sessions

/-- A request that brings no store which tells of passes. -/
def Request.Quiet : Request → Prop
  | .build _ verifier | .setVerifier _ verifier => ∀ store, verifier = some store → store.Quiet
  | .validate .. => True

namespace Sessions

variable {ss : Sessions} {request : Request}

theorem Quiet.set (h : Quiet ss) {s : Session}
    (hs : ∀ store, s.verifier = some store → store.Quiet) (place : Nat) :
    Quiet (ss.set place s) := by
  intro other hother
  rcases List.mem_or_eq_of_mem_set hother with hold | rfl
  · exact h other hold
  · exact hs

theorem Quiet.step (h : Quiet ss) (hrequest : request.Quiet) : Quiet (ss.step request).2.1 := by
  cases request with
  | build setup verifier =>
    rcases hbuilt : setup.build with ⟨fault | engine, events⟩
    · rw [step_build_of_error hbuilt]
      exact h
    · rw [step_build_of_ok hbuilt]
      intro s hs
      rcases List.mem_append.mp hs with hold | hnew
      · exact h s hold
      · rw [List.mem_singleton.mp hnew]
        exact hrequest
  | validate place now =>
    cases hs : ss[place]? with
    | none =>
      rw [step_validate_of_none hs]
      exact h
    | some s =>
      rw [step_validate_of_some hs]
      apply h.set
      rw [Session.verifier_validate]
      exact h s (List.mem_of_getElem? hs)
  | setVerifier place verifier =>
    cases hs : ss[place]? with
    | none =>
      rw [step_setVerifier_of_none hs]
      exact h
    | some s =>
      rw [step_setVerifier_of_some hs]
      exact h.set (s := s.setVerifier verifier) hrequest place

theorem build_events (setup : Setup) :
    setup.build.2 = match setup.build.1 with
      | .ok _ => []
      | .error fault =>
        if fault.isConfiguration then [.misconfigured setup.name .construction fault] else [] := by
  unfold Setup.build
  cases setup.readRules <;> rfl

/-- What a step tells of constructions and passes is what its deed tells. -/
theorem ofPass_step (h : Quiet ss) (request : Request) :
    (ss.step request).2.2.filter Event.isOfPass = (ss.deed? request).toList.flatMap Deed.told := by
  cases request with
  | build setup verifier =>
    have hevents := build_events setup
    rcases hbuilt : setup.build with ⟨fault | engine, events⟩
    · rw [step_build_of_error hbuilt]
      simp only [hbuilt] at hevents
      cases hcounted : fault.isConfiguration <;>
        simp [deed?, hbuilt, hevents, hcounted, Deed.told, Event.isOfPass]
    · rw [step_build_of_ok hbuilt]
      simp only [hbuilt] at hevents
      simp [deed?, hbuilt, hevents]
  | validate place now =>
    cases hs : ss[place]? with
    | none =>
      rw [step_validate_of_none hs]
      simp [deed?, hs]
    | some s =>
      rw [step_validate_of_some hs]
      have hquiet := h s (List.mem_of_getElem? hs)
      rcases Option.eq_none_or_eq_some s.outcome with hnone | ⟨o, hsome⟩
      · have hnew : ({ s with engine.now := now } : Session).outcome = none := hnone
        simp only [deed?, hs, hnone, Option.isSome_none, Bool.false_eq_true, if_false,
          Option.toList_some, List.flatMap_singleton, Deed.told]
        rw [Session.result_of_none rfl]
        exact Engine.ofPass_run hquiet s.asked
      · have hagain : ({ s with engine.now := now } : Session).outcome = some o := hsome
        rw [Session.validate_of_outcome hagain]
        simp [deed?, hs, hsome]
  | setVerifier place verifier =>
    cases hs : ss[place]? with
    | none =>
      rw [step_setVerifier_of_none hs]
      rfl
    | some s =>
      rw [step_setVerifier_of_some hs]
      rfl

theorem ofPass_stepAll {requests : List Request} (h : Quiet ss)
    (hrequests : ∀ request ∈ requests, request.Quiet) :
    (stepAll requests ss).2.filter Event.isOfPass = (history requests ss).flatMap Deed.told := by
  induction requests generalizing ss with
  | nil => rfl
  | cons request rest ih =>
    have hstep := h.step (hrequests request (List.mem_cons_self ..))
    simp only [stepAll, history, List.filter_append, List.flatMap_append]
    rw [ofPass_step h, ih hstep fun later hlater => hrequests later (List.mem_cons_of_mem _ hlater)]

/-! ## What the metrics hold -/

/-- Metrics that hold the count of each thing among deeds. -/
structure Counts (deeds : List Deed) (m : Metrics) : Prop where
  passes : ∀ ruleSet ending, m.passes.count (ruleSet, ending) =
    deeds.countP fun d => d.ending? = some (ruleSet, ending)
  faults : ∀ label, m.faults.count label =
    deeds.countP fun d => d.configurationFault?.map Fault.label = some label
  decisions : ∀ rule applicable, m.decisions.count (rule, applicable) =
    (deeds.map fun d => d.decisions.count (rule, applicable)).sum
  decisions_total : m.decisions.total = (deeds.map fun d => d.decisions.length).sum
  failures : ∀ ruleSet rule, m.ruleFailures.count (ruleSet, rule) =
    (deeds.map fun d => d.failures.count (ruleSet, rule)).sum

/-- What a kind of mark comes to, from what it comes to in each deed. -/
theorem filterMap_of_ofPass {α : Type} (mark : Event → Option α) (marks : Deed → List α)
    (hmark : ∀ event, event.isOfPass = false → mark event = none)
    (htold : ∀ d : Deed, d.told.filterMap mark = marks d) {deeds : List Deed} {events : List Event}
    (h : events.filter Event.isOfPass = deeds.flatMap Deed.told) :
    events.filterMap mark = deeds.flatMap marks := by
  rw [← filterMap_ofPass hmark, h]
  clear h
  induction deeds with
  | nil => rfl
  | cons d rest ih => simp only [List.flatMap_cons, List.filterMap_append, htold, ih]

theorem count_flatMap_toList {α : Type} [DecidableEq α] [BEq α] [LawfulBEq α]
    (f : Deed → Option α) (deeds : List Deed) (a : α) :
    (deeds.flatMap fun d => (f d).toList).count a = deeds.countP fun d => f d = some a := by
  induction deeds with
  | nil => rfl
  | cons d rest ih =>
    rw [List.flatMap_cons, List.count_append, ih, List.countP_cons]
    cases h : f d with
    | none => simp
    | some b => simp [List.count_cons, Nat.add_comm]

theorem counts_of_ofPass {deeds : List Deed} {events : List Event}
    (h : events.filter Event.isOfPass = deeds.flatMap Deed.told) :
    Counts deeds (Metrics.ofEvents events) := by
  have hendings := filterMap_of_ofPass Event.ending? (fun d => d.ending?.toList)
    (fun _ hquiet => (Event.marks_of_not_ofPass hquiet).1) Deed.ending_told h
  have hfaults := filterMap_of_ofPass Event.faultLabel?
    (fun d => (d.configurationFault?.map Fault.label).toList)
    (fun _ hquiet => (Event.marks_of_not_ofPass hquiet).2.1) Deed.faultLabel_told h
  have hdecisions := filterMap_of_ofPass Event.decision? Deed.decisions
    (fun _ hquiet => (Event.marks_of_not_ofPass hquiet).2.2.1) Deed.decision_told h
  have hfailures := filterMap_of_ofPass Event.failure? Deed.failures
    (fun _ hquiet => (Event.marks_of_not_ofPass hquiet).2.2.2) Deed.failure_told h
  constructor
  case passes =>
    intro ruleSet ending
    rw [Metrics.count_ofEvents Metrics.passes Event.ending? Metrics.passes_note rfl, hendings,
      count_flatMap_toList]
  case faults =>
    intro label
    rw [Metrics.count_ofEvents Metrics.faults Event.faultLabel? Metrics.faults_note rfl, hfaults,
      count_flatMap_toList]
  case decisions =>
    intro rule applicable
    rw [Metrics.count_ofEvents Metrics.decisions Event.decision? Metrics.decisions_note rfl,
      hdecisions, List.count_flatMap]
    rfl
  case decisions_total =>
    rw [Metrics.total_ofEvents Metrics.decisions Event.decision? Metrics.decisions_note rfl,
      hdecisions, List.length_flatMap]
  case failures =>
    intro ruleSet rule
    rw [Metrics.count_ofEvents Metrics.ruleFailures Event.failure? Metrics.ruleFailures_note rfl,
      hfailures, List.count_flatMap]
    rfl

/-- The passes in a history are run by sessions that have no outcome yet. -/
theorem outcome_of_mem_history {requests : List Request} {s : Session}
    (h : .pass s ∈ history requests ss) : s.outcome = none := by
  induction requests generalizing ss with
  | nil => cases h
  | cons request rest ih =>
    rcases List.mem_append.mp h with hnow | hlater
    · cases request with
      | build setup verifier =>
        rcases hbuilt : setup.build with ⟨fault | engine, events⟩ <;> simp [deed?, hbuilt] at hnow
      | validate place now =>
        cases hs : ss[place]? with
        | none => simp [deed?, hs] at hnow
        | some found =>
          rcases Option.eq_none_or_eq_some found.outcome with hnone | ⟨o, hsome⟩
          · simp only [deed?, hs, hnone, Option.isSome_none, Bool.false_eq_true, if_false,
              Option.toList_some, List.mem_singleton, Deed.pass.injEq] at hnow
            rw [hnow]
          · simp [deed?, hs, hsome] at hnow
      | setVerifier place verifier => simp [deed?] at hnow
    · exact ih hlater

end Sessions

/-- **What the metrics account for**, from nothing on, whatever is built and validated. They count
    each pass by its rule set and how it ended, each fault of the configuration that ended a
    construction or a pass, each decision on a rule and each failure that was recorded, and nothing
    else. A completed pass decides on every one of its rules and records the failures of its
    outcome. An outcome that is kept is given again without being counted. -/
theorem metrics_account_for (requests : List Request)
    (hquiet : ∀ request ∈ requests, request.Quiet) :
    Sessions.Counts (Sessions.history requests [])
        (Metrics.ofEvents (Sessions.stepAll requests []).2) ∧
      (∀ s o, .pass s ∈ Sessions.history requests [] → s.validate.1 = .ok o →
        (Deed.pass s).decisions.length = (Engine.pairs s.engine.rules).length ∧
          (Deed.pass s).failures = o.failures.map fun f => (s.engine.name, readable f.rule)) ∧
      ∀ (ss : Sessions) (place : Nat) (now : Moment) s o, ss[place]? = some s → s.outcome = some o →
        (ss.step (.validate place now)).1 = .ok (some o) ∧
          (ss.step (.validate place now)).2.2 = [] := by
  have hnone : Sessions.Quiet [] := by
    intro s hs
    cases hs
  refine ⟨Sessions.counts_of_ofPass (Sessions.ofPass_stepAll hnone hquiet), ?_, ?_⟩
  · intro s o hs ho
    exact Deed.of_completed (Sessions.outcome_of_mem_history hs) ho
  · intro ss place now s o hs ho
    have hagain : ({ s with engine.now := now } : Session).outcome = some o := ho
    rw [Sessions.step_validate_of_some hs, Session.validate_of_outcome hagain]
    exact ⟨rfl, rfl⟩

/-- A construction that is refused, and a session without rules that is asked twice. -/
theorem metrics_account_for_twice :
    let nameless : Setup :=
      { payload := [], rules := [("age", .text ":3")], catalogue := .empty
        now := default }
    let empty : Setup := { payload := [], rules := [], catalogue := .empty, now := default }
    let requests : List Request :=
      [.build nameless none, .build empty none, .validate 0 default, .validate 0 default]
    (∀ request ∈ requests, request.Quiet) ∧
      (Sessions.history requests []).map Deed.ending? =
        [some ("adhoc", .aborted), some ("adhoc", .passed)] ∧
      Sessions.Counts (Sessions.history requests [])
        (Metrics.ofEvents (Sessions.stepAll requests []).2) := by
  intro nameless empty requests
  have hquiet : ∀ request ∈ requests, request.Quiet := by
    simp [requests, Request.Quiet]
  exact ⟨hquiet, rfl, (metrics_account_for requests hquiet).1⟩

end PayloadCheck.Check
