import PayloadCheck.Check.Session
import PayloadCheck.Proofs.Check.Catalogue
import PayloadCheck.Proofs.Check.Outcome

/-!
# What a pass comes to

Every rule of a field is judged for itself, given only what the store was asked before it; which
query it leads to does not depend on the answers. A pass ends with the fault of the first rule that
has one, and otherwise records exactly the rules that apply and are not satisfied, in order, each
with its message (`validate_new`). What the store is asked are the queries of the rules up to the
one where the pass ends.
-/

namespace PayloadCheck.Check

open PayloadCheck.Presence PayloadCheck.Rule PayloadCheck.Text

/-- A rule of a field, with all rules of the field. -/
abbrev Pair := String × Spec × List Spec

/-! ### One rule for itself -/

/-- The count that a query yields after the queries `asked`. -/
def countAfter (verifier : Option Verifier) (asked : List Query) (q : Query) : Except Fault Int :=
  match verifier with
  | none => .error .noVerifier
  | some verifier => ((verifier.reply asked q).answer.bind countOf).mapError storeFault

namespace Engine

/-- Whether a value satisfies a rule after the queries `asked`: there are parameters enough, and
the check answers. -/
def answer (e : Engine) (verifier : Option Verifier) (asked : List Query) (field : String)
    (v : Value) (rule : Spec) : Except Fault Bool :=
  match e.catalogue.lookUp rule field with
  | .error fault => .error fault
  | .ok check =>
    if rule.parameters.length < check.arity then
      .error (.tooFewParameters rule.readable check.arity rule.parameters.length)
    else match check.run (e.context verifier.isSome) field v rule.parameters with
      | .decided b => .ok b
      | .refused fault => .error fault
      | .asks q judge => judge <$> countAfter verifier asked q

/-- The query that a rule leads to for a value, if there is a verifier to ask. -/
def query? (e : Engine) (verifier : Option Verifier) (field : String) (v : Value) (rule : Spec) :
    Option Query :=
  match e.catalogue.lookUp rule field with
  | .error _ => none
  | .ok check =>
    if rule.parameters.length < check.arity then none
    else match check.run (e.context verifier.isSome) field v rule.parameters with
      | .asks q _ => if verifier.isSome then some q else none
      | _ => none

/-- Whether a rule is run for a value of its field. -/
def applies (p : Pair) (v : Value) : Bool := (skip? p.2.1 p.1 v p.2.2 (!v.isAbsent)).isNone

/-- The judgement on a rule of a field after the queries `asked`: none if the rule is not run. -/
def judgement (e : Engine) (verifier : Option Verifier) (asked : List Query) (p : Pair) :
    Except Fault (Option Bool) :=
  match e.bags.value p.1 with
  | .error fault => .error fault
  | .ok v => if applies p v then some <$> e.answer verifier asked p.1 v p.2.1 else .ok none

/-- Whether a rule of a field is run and not satisfied. -/
def fails (e : Engine) (verifier : Option Verifier) (asked : List Query) (p : Pair) : Bool :=
  match e.judgement verifier asked p with
  | .ok (some false) => true
  | _ => false

/-- The fault of a rule of a field: there is no judgement, or no message for a rule that fails. -/
def fault? (e : Engine) (verifier : Option Verifier) (asked : List Query) (p : Pair) :
    Option Fault :=
  match e.judgement verifier asked p with
  | .error fault => some fault
  | .ok (some false) =>
    match e.messages.resolve p.1 p.2.1 with
    | .error fault => some fault
    | .ok _ => none
  | .ok _ => none

/-- The query that a rule of a field leads to. -/
def callOf? (e : Engine) (verifier : Option Verifier) (p : Pair) : Option Query :=
  match e.bags.value p.1 with
  | .error _ => none
  | .ok v => if applies p v then e.query? verifier p.1 v p.2.1 else none

/-- Rules in order, each with what the store was asked before it. -/
def withHistory (e : Engine) (verifier : Option Verifier) :
    List Query → List Pair → List (List Query × Pair)
  | _, [] => []
  | asked, p :: rest =>
    (asked, p) :: e.withHistory verifier (asked ++ (e.callOf? verifier p).toList) rest

end Engine

/-- The failure that a rule of a field leaves behind. -/
def Pair.failure (p : Pair) : Failure := ⟨p.1, p.2.1.name, p.2.1.parameters⟩

/-! ### One step of a pass -/

theorem ask_eq (verifier : Verifier) (q : Query) (j : Journal) :
    (ask verifier q j).1 = countAfter (some verifier) j.asked q ∧
      (ask verifier q j).2.asked = j.asked ++ [q] := by
  unfold ask countAfter
  cases h : (verifier.reply j.asked q).answer.bind countOf with
  | ok count =>
    simp only [h]
    exact ⟨rfl, rfl⟩
  | error fault =>
    by_cases hown : fault.isOwn
    · have hstore : storeFault fault = fault := if_pos hown
      simp only [h, if_pos hown]
      exact ⟨congrArg Except.error hstore.symm, rfl⟩
    · simp only [h, if_neg hown]
      exact ⟨rfl, rfl⟩

namespace Engine

variable {e : Engine} {verifier : Option Verifier}

theorem dispatch_eq (e : Engine) (verifier : Option Verifier) (field : String) (v : Value)
    (rule : Spec) (j : Journal) :
    (e.dispatch verifier field v rule j).1 = e.answer verifier j.asked field v rule ∧
      (e.dispatch verifier field v rule j).2.asked =
        j.asked ++ (e.query? verifier field v rule).toList := by
  unfold dispatch answer query?
  cases hfound : e.catalogue.lookUp rule field with
  | error fault => simp
  | ok check =>
    by_cases hfew : rule.parameters.length < check.arity
    · simp [hfew]
    · cases hrun : check.run (e.context verifier.isSome) field v rule.parameters with
      | decided b => simp [hfew, hrun]
      | refused fault => simp [hfew, hrun]
      | asks q judge =>
        cases verifier with
        | none =>
          simp only [Option.isSome_none] at hrun
          simp only [hfew, hrun, if_false, Option.isSome_none, countAfter]
          exact ⟨rfl, by simp⟩
        | some store =>
          obtain ⟨hcount, hasked⟩ := ask_eq store q j
          simp only [Option.isSome_some] at hrun
          simp only [hfew, hrun, if_false, if_true, Option.isSome_some]
          exact ⟨congrArg (judge <$> ·) hcount, by simp [hasked]⟩

/-- A rule with parameters enough whose check decides at once is dispatched to that decision, and
nothing is asked. -/
theorem dispatch_deciding {name : String} {arity : Nat}
    {decide : Context → String → Value → List String → Except Fault Bool} {rule : Spec}
    (hfind : e.catalogue.find? rule.name = some (.deciding name arity decide))
    (harity : arity ≤ rule.parameters.length) (verifier : Option Verifier) (field : String)
    (v : Value) (j : Journal) :
    e.dispatch verifier field v rule j =
      (decide (e.context verifier.isSome) field v rule.parameters, j) := by
  have hfew : ¬ rule.parameters.length < arity := Nat.not_lt.mpr harity
  unfold dispatch
  rw [Catalogue.lookUp_of_find? hfind]
  simp only [Check.deciding, hfew, if_false]
  cases decide (e.context verifier.isSome) field v rule.parameters <;> rfl

/-- The same with the built-in checks, for a rule in any spelling of a check's name. -/
theorem dispatch_builtin {resolves : List Char → Bool} {name : String} {arity : Nat}
    {decide : Context → String → Value → List String → Except Fault Bool} {rule : Spec}
    (hcatalogue : e.catalogue = builtinFor resolves)
    (hmem : Check.deciding name arity decide ∈ builtinChecks resolves)
    (hkey : rule.key = Rule.key name) (harity : arity ≤ rule.parameters.length)
    (verifier : Option Verifier) (field : String) (v : Value) (j : Journal) :
    e.dispatch verifier field v rule j =
      (decide (e.context verifier.isSome) field v rule.parameters, j) :=
  dispatch_deciding (hcatalogue ▸ find?_builtinFor_of_mem hmem hkey) harity verifier field v j

/-- What one step of a pass does: it ends with the fault of the judgement, adds the failure of a
rule that is not satisfied, or leaves the record as it is; and it asks what the rule leads to. -/
theorem evaluate_eq (e : Engine) (verifier : Option Verifier) (p : Pair) (record : Record)
    (j : Journal) :
    (e.evaluate verifier p.1 p.2.1 p.2.2 record j).1 =
        (match e.judgement verifier j.asked p with
        | .error fault => .error fault
        | .ok (some false) => record.add e.messages p.1 p.2.1
        | .ok _ => .ok record) ∧
      (e.evaluate verifier p.1 p.2.1 p.2.2 record j).2.asked =
        j.asked ++ (e.callOf? verifier p).toList := by
  unfold evaluate judgement callOf?
  cases hvalue : e.bags.value p.1 with
  | error fault => simp
  | ok v =>
    cases hskip : skip? p.2.1 p.1 v p.2.2 (!v.isAbsent) with
    | some reason => simp [applies, hskip, Journal.note]
    | none =>
      have happlies : applies p v = true := by simp [applies, hskip]
      obtain ⟨hanswer, hasked⟩ := dispatch_eq e verifier p.1 v p.2.1
        (j.note (.considered p.1 p.2.1.readable none))
      generalize hrun : e.dispatch verifier p.1 v p.2.1
        (j.note (.considered p.1 p.2.1.readable none)) = outcome at hanswer hasked
      obtain ⟨result, after⟩ := outcome
      simp only [Journal.note] at hanswer hasked hrun ⊢
      simp only [happlies, hskip, if_true, ← hanswer, Option.isSome_none, Bool.false_eq_true, if_false,
        hrun]
      cases result with
      | error fault => exact ⟨rfl, hasked⟩
      | ok b =>
        cases b with
        | true => exact ⟨rfl, hasked⟩
        | false =>
          cases hadd : record.add e.messages p.1 p.2.1 with
          | error fault => exact ⟨rfl, hasked⟩
          | ok added => exact ⟨rfl, hasked⟩

/-- A rule is run iff the field was submitted or is not marked by `sometimes`, and the value is
present or the rule reacts to missing values. -/
theorem applies_iff {p : Pair} {v : Value} :
    applies p v = true ↔ (v.isAbsent = false ∨ isSometimes p.2.2 = false) ∧
      (v.isPresent p.1 = true ∨ isImplicit p.2.1 = true) := by
  unfold applies skip?
  cases v.isAbsent <;> cases isSometimes p.2.2 <;> cases v.isPresent p.1 <;>
    cases isImplicit p.2.1 <;> decide

/-- The judgement on a rule that is run and whose check decides, refuses or asks. -/
theorem judgement_of_find? {p : Pair} {v : Value} {check : Check} (asked : List Query)
    (hvalue : e.bags.value p.1 = .ok v) (happlies : applies p v = true)
    (hfind : e.catalogue.find? p.2.1.name = some check)
    (harity : check.arity ≤ p.2.1.parameters.length) :
    e.judgement verifier asked p =
      some <$> (match check.run (e.context verifier.isSome) p.1 v p.2.1.parameters with
        | .decided b => .ok b
        | .refused fault => .error fault
        | .asks q judge => judge <$> countAfter verifier asked q) := by
  have hnotFew : ¬ p.2.1.parameters.length < check.arity := by omega
  simp only [judgement, hvalue, happlies, if_true, answer, Catalogue.lookUp_of_find? hfind,
    hnotFew, if_false]

theorem callOf?_of_find? {p : Pair} {v : Value} {check : Check} (hvalue : e.bags.value p.1 = .ok v)
    (happlies : applies p v = true) (hfind : e.catalogue.find? p.2.1.name = some check)
    (harity : check.arity ≤ p.2.1.parameters.length) :
    e.callOf? verifier p =
      (match check.run (e.context verifier.isSome) p.1 v p.2.1.parameters with
        | .asks q _ => if verifier.isSome then some q else none
        | _ => none) := by
  have hnotFew : ¬ p.2.1.parameters.length < check.arity := by omega
  simp only [callOf?, hvalue, happlies, if_true, query?, Catalogue.lookUp_of_find? hfind, hnotFew,
    if_false]

/-- A rule on the kinds of files fails on a text. -/
theorem judgement_of_mimes {resolves : List Char → Bool} {p : Pair} {text : String}
    (hcatalogue : e.catalogue = builtinFor resolves) (hfile : e.bags.isFile (.text text) = false)
    (hvalue : e.bags.value p.1 = .ok (.text text)) (happlies : applies p (.text text) = true)
    (hkey : p.2.1.key = "mimes") (harity : 1 ≤ p.2.1.parameters.length) (asked : List Query) :
    e.judgement verifier asked p = .ok (some false) := by
  have hfind : e.catalogue.find? p.2.1.name =
      some (.deciding "mimes" 1 fun c _ v ps => hasEnding c v ps) :=
    hcatalogue ▸ find?_builtin_mimes hkey
  rw [judgement_of_find? asked hvalue happlies hfind harity]
  simp only [Check.deciding, hasEnding, context, hfile, Bool.false_eq_true, if_false]
  rfl

theorem fault?_of_no_message {p : Pair} {asked : List Query} {fault : Fault}
    (hjudged : e.judgement verifier asked p = .ok (some false))
    (hmessage : e.messages.resolve p.1 p.2.1 = .error fault) :
    e.fault? verifier asked p = some fault := by
  simp only [fault?, hjudged, hmessage]

theorem fault?_of_refused {p : Pair} {asked : List Query} {fault : Fault}
    (hjudged : e.judgement verifier asked p = .error fault) :
    e.fault? verifier asked p = some fault := by
  simp only [fault?, hjudged]

theorem no_fault_of_satisfied {p : Pair} {asked : List Query}
    (hjudged : e.judgement verifier asked p = .ok (some true)) :
    e.fault? verifier asked p = none ∧ e.fails verifier asked p = false := by
  simp only [fault?, fails, hjudged, and_self]

/-- A text under the readable name of a rule is enough for a message. -/
theorem resolves_of_text {m : Messages} {rule : Spec} {text : String}
    (h : m.texts.get? rule.readable = some text) (field : String) :
    ∃ message, m.resolve field rule = .ok message := by
  have hwritten : m.IsWritten field rule := by
    right
    simp [FieldMap.has, h]
  rcases m.resolve_cases field rule with ⟨-, message⟩ | ⟨hnot, -⟩
  · exact message
  · exact absurd hwritten hnot

/-- The only fault of a message is that there is none. -/
theorem resolve_fault {m : Messages} {field : String} {rule : Spec} {fault : Fault}
    (h : m.resolve field rule = .error fault) : fault = .noMessage field rule.readable := by
  rcases m.resolve_cases field rule with ⟨-, text, htext⟩ | ⟨-, hfault⟩
  · cases htext.symm.trans h
  · exact Except.error.inj (h.symm.trans hfault)

theorem no_fault_of_message {p : Pair} {asked : List Query} {text : String}
    (hjudged : e.judgement verifier asked p = .ok (some false))
    (hmessage : e.messages.resolve p.1 p.2.1 = .ok text) :
    e.fault? verifier asked p = none ∧ e.fails verifier asked p = true := by
  simp only [fault?, fails, hjudged, hmessage, and_self]

theorem evaluate_of_fault {p : Pair} (record : Record) {j : Journal} {fault : Fault}
    (h : e.fault? verifier j.asked p = some fault) :
    (e.evaluate verifier p.1 p.2.1 p.2.2 record j).1 = .error fault := by
  rw [(evaluate_eq e verifier p record j).1]
  unfold fault? at h
  cases hjudged : e.judgement verifier j.asked p with
  | error other =>
    simp only [hjudged, Option.some.injEq] at h
    rw [h]
  | ok judged =>
    rw [hjudged] at h
    match judged, h with
    | some false, h =>
      cases htext : e.messages.resolve p.1 p.2.1 with
      | error other =>
        simp only [htext, Option.some.injEq] at h
        simp [Record.add, htext, h, bind, Except.bind]
      | ok text => simp [htext] at h

/-- A rule without a fault is recorded with its message if it fails, and leaves no trace else. -/
theorem evaluate_of_no_fault {p : Pair} (record : Record) {j : Journal}
    (h : e.fault? verifier j.asked p = none) :
    ∃ added, (e.evaluate verifier p.1 p.2.1 p.2.2 record j).1 = .ok added ∧
      added.failures =
        record.failures ++ (if e.fails verifier j.asked p then [p.failure] else []) ∧
      added.messages.map (fun m => (m.1, Except.ok m.2)) =
        record.messages.map (fun m => (m.1, Except.ok m.2)) ++
          (if e.fails verifier j.asked p then [(p.1, e.messages.resolve p.1 p.2.1)] else []) := by
  rw [(evaluate_eq e verifier p record j).1]
  unfold fault? at h
  unfold fails
  cases hjudged : e.judgement verifier j.asked p with
  | error other => simp [hjudged] at h
  | ok judged =>
    rw [hjudged] at h
    match judged, h with
    | none, _ => exact ⟨record, by simp⟩
    | some true, _ => exact ⟨record, by simp⟩
    | some false, h =>
      cases htext : e.messages.resolve p.1 p.2.1 with
      | error other => simp [htext] at h
      | ok text =>
        refine ⟨⟨record.failures ++ [p.failure], record.messages ++ [(p.1, text)]⟩, ?_, ?_, ?_⟩
        · simp [Record.add, htext, bind, Except.bind, pure, Except.pure, Pair.failure]
        · simp
        · simp

/-! ### A whole pass -/

/-- The rules that fail, in order. -/
def failing (e : Engine) (verifier : Option Verifier) (asked : List Query) (ps : List Pair) :
    List Pair :=
  ((e.withHistory verifier asked ps).filter fun (before, p) => e.fails verifier before p).map
    Prod.snd

/-- The first fault. -/
def firstFault? (e : Engine) (verifier : Option Verifier) (asked : List Query) (ps : List Pair) :
    Option Fault :=
  (e.withHistory verifier asked ps).findSome? fun (before, p) => e.fault? verifier before p

/-- The rules up to the first one that has a fault, that one included. -/
def reached (e : Engine) (verifier : Option Verifier) (asked : List Query) (ps : List Pair) :
    List Pair :=
  ps.take (((e.withHistory verifier asked ps).takeWhile fun (before, p) =>
    (e.fault? verifier before p).isNone).length + 1)

theorem withHistory_cons (asked : List Query) (p : Pair) (rest : List Pair) :
    e.withHistory verifier asked (p :: rest) =
      (asked, p) :: e.withHistory verifier (asked ++ (e.callOf? verifier p).toList) rest := rfl

theorem failing_cons (asked : List Query) (p : Pair) (rest : List Pair) :
    e.failing verifier asked (p :: rest) = (if e.fails verifier asked p then [p] else []) ++
      e.failing verifier (asked ++ (e.callOf? verifier p).toList) rest := by
  unfold failing
  rw [withHistory_cons]
  by_cases h : e.fails verifier asked p = true
  · simp [h]
  · simp [h]

theorem firstFault?_cons (asked : List Query) (p : Pair) (rest : List Pair) :
    e.firstFault? verifier asked (p :: rest) = (e.fault? verifier asked p).or
      (e.firstFault? verifier (asked ++ (e.callOf? verifier p).toList) rest) := by
  unfold firstFault?
  rw [withHistory_cons]
  cases h : e.fault? verifier asked p with
  | none => simp [h]
  | some fault => simp [h]

theorem reached_cons_of_fault {asked : List Query} {p : Pair} (rest : List Pair) {fault : Fault}
    (h : e.fault? verifier asked p = some fault) : e.reached verifier asked (p :: rest) = [p] := by
  unfold reached
  rw [withHistory_cons]
  simp [h]

theorem reached_cons_of_no_fault {asked : List Query} {p : Pair} (rest : List Pair)
    (h : e.fault? verifier asked p = none) : e.reached verifier asked (p :: rest) =
      p :: e.reached verifier (asked ++ (e.callOf? verifier p).toList) rest := by
  unfold reached
  rw [withHistory_cons]
  simp [h]

theorem evaluateAll_cons_of_fault {p : Pair} (rest : List Pair) (record : Record) {j : Journal}
    {fault : Fault} (h : e.fault? verifier j.asked p = some fault) :
    e.evaluateAll verifier (p :: rest) record j =
      (.error fault, (e.evaluate verifier p.1 p.2.1 p.2.2 record j).2) := by
  have hstep := evaluate_of_fault record h
  obtain ⟨field, rule, rules⟩ := p
  rw [evaluateAll]
  generalize e.evaluate verifier field rule rules record j = outcome at hstep ⊢
  obtain ⟨result, after⟩ := outcome
  cases hstep
  rfl

theorem evaluateAll_cons_of_ok {p : Pair} (rest : List Pair) {record added : Record} {j : Journal}
    (h : (e.evaluate verifier p.1 p.2.1 p.2.2 record j).1 = .ok added) :
    e.evaluateAll verifier (p :: rest) record j =
      e.evaluateAll verifier rest added (e.evaluate verifier p.1 p.2.1 p.2.2 record j).2 := by
  obtain ⟨field, rule, rules⟩ := p
  rw [evaluateAll]
  generalize e.evaluate verifier field rule rules record j = outcome at h ⊢
  obtain ⟨result, after⟩ := outcome
  cases h
  rfl

/-- What the store was asked once some rules are behind the pass. -/
def askedAfter (e : Engine) (verifier : Option Verifier) (asked : List Query) (ps : List Pair) :
    List Query :=
  asked ++ ps.filterMap (e.callOf? verifier)

theorem askedAfter_cons (asked : List Query) (p : Pair) (rest : List Pair) :
    e.askedAfter verifier asked (p :: rest) =
      e.askedAfter verifier (asked ++ (e.callOf? verifier p).toList) rest := by
  unfold askedAfter
  cases h : e.callOf? verifier p <;> simp [h]

theorem firstFault?_append (asked : List Query) (first rest : List Pair) :
    e.firstFault? verifier asked (first ++ rest) = (e.firstFault? verifier asked first).or
      (e.firstFault? verifier (e.askedAfter verifier asked first) rest) := by
  induction first generalizing asked with
  | nil => simp [firstFault?, withHistory, askedAfter]
  | cons p first ih =>
    rw [List.cons_append, firstFault?_cons, firstFault?_cons, ih, Option.or_assoc, askedAfter_cons]

theorem reached_append_of_fault {asked : List Query} {before : List Pair} {p : Pair} {fault : Fault}
    (hbefore : e.firstFault? verifier asked before = none)
    (hfault : e.fault? verifier (e.askedAfter verifier asked before) p = some fault)
    (rest : List Pair) : e.reached verifier asked (before ++ p :: rest) = before ++ [p] := by
  induction before generalizing asked with
  | nil => exact reached_cons_of_fault rest (by simpa [askedAfter] using hfault)
  | cons first before ih =>
    rw [firstFault?_cons] at hbefore
    obtain ⟨hfirst, hlater⟩ := Option.or_eq_none_iff.mp hbefore
    rw [askedAfter_cons] at hfault
    rw [List.cons_append, reached_cons_of_no_fault _ hfirst, ih hlater hfault, List.cons_append]

/-- A pass that meets a fault does not look at what comes behind. -/
theorem evaluateAll_stops {before : List Pair} {p : Pair} {j : Journal} {fault : Fault}
    (hbefore : e.firstFault? verifier j.asked before = none)
    (hfault : e.fault? verifier (e.askedAfter verifier j.asked before) p = some fault)
    (record : Record) (rest : List Pair) :
    e.evaluateAll verifier (before ++ p :: rest) record j =
      e.evaluateAll verifier (before ++ [p]) record j := by
  induction before generalizing record j with
  | nil =>
    have hnow : e.fault? verifier j.asked p = some fault := by
      simpa [askedAfter] using hfault
    rw [List.nil_append, List.nil_append, evaluateAll_cons_of_fault rest record hnow,
      evaluateAll_cons_of_fault [] record hnow]
  | cons first before ih =>
    rw [firstFault?_cons] at hbefore
    obtain ⟨hfirst, hlater⟩ := Option.or_eq_none_iff.mp hbefore
    obtain ⟨added, hstep, -, -⟩ := evaluate_of_no_fault record hfirst
    have hasked := (evaluate_eq e verifier first record j).2
    rw [List.cons_append, List.cons_append, evaluateAll_cons_of_ok _ hstep,
      evaluateAll_cons_of_ok _ hstep]
    apply ih
    · rw [hasked]
      exact hlater
    · rw [hasked, ← askedAfter_cons]
      exact hfault

/-- The store is asked what the rules lead to that are reached. -/
theorem evaluateAll_asked (ps : List Pair) (record : Record) (j : Journal) :
    (e.evaluateAll verifier ps record j).2.asked =
      j.asked ++ (e.reached verifier j.asked ps).filterMap (e.callOf? verifier) := by
  induction ps generalizing record j with
  | nil => simp [evaluateAll, reached]
  | cons p rest ih =>
    have hasked := (evaluate_eq e verifier p record j).2
    cases hfault : e.fault? verifier j.asked p with
    | some fault =>
      rw [evaluateAll_cons_of_fault rest record hfault, reached_cons_of_fault rest hfault, hasked]
      cases hcall : e.callOf? verifier p <;> simp [hcall]
    | none =>
      obtain ⟨added, hstep, -, -⟩ := evaluate_of_no_fault record hfault
      rw [evaluateAll_cons_of_ok rest hstep, ih, hasked, reached_cons_of_no_fault rest hfault]
      cases hcall : e.callOf? verifier p <;> simp [hcall]

/-- The loop ends with the first fault that a rule has. -/
theorem evaluateAll_of_fault {ps : List Pair} {record : Record} {j : Journal} {fault : Fault}
    (h : e.firstFault? verifier j.asked ps = some fault) :
    (e.evaluateAll verifier ps record j).1 = .error fault := by
  induction ps generalizing record j with
  | nil => cases h
  | cons p rest ih =>
    rw [firstFault?_cons] at h
    cases hfault : e.fault? verifier j.asked p with
    | some first =>
      rw [hfault, Option.some_or] at h
      cases h
      rw [evaluateAll_cons_of_fault rest record hfault]
    | none =>
      obtain ⟨added, hstep, -, -⟩ := evaluate_of_no_fault record hfault
      rw [evaluateAll_cons_of_ok rest hstep]
      apply ih
      rw [(evaluate_eq e verifier p record j).2]
      simpa [hfault] using h

/-- Without a fault the loop adds to its record the rules that fail, each with its message. -/
theorem evaluateAll_of_no_fault {ps : List Pair} (record : Record) {j : Journal}
    (h : e.firstFault? verifier j.asked ps = none) :
    ∃ final, (e.evaluateAll verifier ps record j).1 = .ok final ∧
      final.failures = record.failures ++ (e.failing verifier j.asked ps).map Pair.failure ∧
      final.messages.map (fun m => (m.1, Except.ok m.2)) =
        record.messages.map (fun m => (m.1, Except.ok m.2)) ++
          (e.failing verifier j.asked ps).map fun p => (p.1, e.messages.resolve p.1 p.2.1) := by
  induction ps generalizing record j with
  | nil => exact ⟨record, by simp [evaluateAll, failing, withHistory]⟩
  | cons p rest ih =>
    rw [firstFault?_cons] at h
    obtain ⟨hfault, hrest⟩ := Option.or_eq_none_iff.mp h
    obtain ⟨added, hstep, hfailures, hmessages⟩ := evaluate_of_no_fault record hfault
    have hasked := (evaluate_eq e verifier p record j).2
    rw [← hasked] at hrest
    obtain ⟨final, hfinal, hlaterFailures, hlaterMessages⟩ := ih added hrest
    refine ⟨final, ?_, ?_, ?_⟩
    · rw [evaluateAll_cons_of_ok rest hstep, hfinal]
    · rw [hlaterFailures, hfailures, failing_cons, hasked, List.append_assoc, List.map_append]
      split <;> rfl
    · rw [hlaterMessages, hmessages, failing_cons, hasked, List.append_assoc, List.map_append]
      split <;> rfl

/-- A pass is its loop, run from an empty record, with an event at its end. -/
theorem run_eq (e : Engine) (verifier : Option Verifier) (asked : List Query) :
    (e.run verifier asked).1 =
        Outcome.ofRecord <$> (e.evaluateAll verifier (pairs e.rules) {} { asked }).1 ∧
      (e.run verifier asked).2.asked =
        (e.evaluateAll verifier (pairs e.rules) {} { asked }).2.asked := by
  unfold run
  generalize e.evaluateAll verifier (pairs e.rules) {} { asked } = outcome
  obtain ⟨result, j⟩ := outcome
  cases result with
  | error fault =>
    refine ⟨rfl, ?_⟩
    by_cases hcounted : fault.isConfiguration
    · simp [hcounted, Journal.note]
    · simp [hcounted]
  | ok record => exact ⟨rfl, rfl⟩

/-- The outcome of a pass in which the given rules fail. -/
def outcomeOf (m : Messages) (failed : List Pair) : Outcome where
  passed := failed.isEmpty
  failures := failed.map Pair.failure
  messages := failed.map fun p => (p.1, (m.resolve p.1 p.2.1).toOption.getD "")

/-- The result of a pass is its first fault, or the outcome of the rules that fail. -/
theorem run_result (e : Engine) (verifier : Option Verifier) (asked : List Query) :
    (e.run verifier asked).1 = match e.firstFault? verifier asked (pairs e.rules) with
      | some fault => .error fault
      | none => .ok (outcomeOf e.messages (e.failing verifier asked (pairs e.rules))) := by
  rw [(run_eq e verifier asked).1]
  cases hfirst : e.firstFault? verifier asked (pairs e.rules) with
  | some fault =>
    rw [evaluateAll_of_fault hfirst]
    rfl
  | none =>
    obtain ⟨final, hfinal, hfailures, hmessages⟩ :=
      evaluateAll_of_no_fault (j := { asked }) {} hfirst
    simp only [List.map_nil, List.nil_append] at hfailures hmessages
    have htexts : final.messages = (outcomeOf e.messages
        (e.failing verifier asked (pairs e.rules))).messages := by
      have h := congrArg (List.map fun m => (m.1, m.2.toOption.getD "")) hmessages
      simpa [Except.toOption, Function.comp_def, outcomeOf] using h
    rw [hfinal]
    refine congrArg Except.ok ?_
    simp only [Outcome.ofRecord, hfailures, htexts, outcomeOf, List.isEmpty_map]

theorem mem_failing {asked : List Query} {ps : List Pair} {p : Pair}
    (h : p ∈ e.failing verifier asked ps) :
    p ∈ ps ∧ ∃ before, e.fails verifier before p = true := by
  induction ps generalizing asked with
  | nil => cases h
  | cons first rest ih =>
    rw [failing_cons, List.mem_append] at h
    rcases h with h | h
    · split at h
      · next hfails =>
        rw [List.mem_singleton] at h
        exact ⟨h ▸ List.mem_cons_self .., asked, h ▸ hfails⟩
      · cases h
    · exact (ih h).imp_left (List.mem_cons_of_mem _)

/-- A rule that fails has a value to fail by, and is run for it. -/
theorem applies_of_fails {asked : List Query} {p : Pair} (h : e.fails verifier asked p = true) :
    ∃ v, e.bags.value p.1 = .ok v ∧ applies p v = true := by
  unfold fails judgement at h
  cases hvalue : e.bags.value p.1 with
  | error fault => simp [hvalue] at h
  | ok v =>
    refine ⟨v, rfl, ?_⟩
    cases happlies : applies p v with
    | true => rfl
    | false => simp [hvalue, happlies] at h

/-- Where only some rules ask, what is asked comes from them. -/
theorem key_mem_of_callOf? {keys : List String} (h : e.catalogue.AsksOnlyFor keys) {p : Pair}
    {q : Query} (hcall : e.callOf? verifier p = some q) : p.2.1.key ∈ keys := by
  unfold callOf? query? at hcall
  cases hvalue : e.bags.value p.1 with
  | error fault => simp [hvalue] at hcall
  | ok v =>
    cases hfound : e.catalogue.lookUp p.2.1 p.1 with
    | error fault => simp [hvalue, hfound] at hcall
    | ok check =>
      cases hrun : check.run (e.context verifier.isSome) p.1 v p.2.1.parameters with
      | decided b => simp [hvalue, hfound, hrun] at hcall
      | refused fault => simp [hvalue, hfound, hrun] at hcall
      | asks asked judge =>
        rcases h p.2.1.name check (Catalogue.find?_of_lookUp hfound) with hdecides | hkey
        · exact absurd hrun (hdecides _ _ _ _ _ _)
        · exact hkey

end Engine

/-! ### Sessions -/

namespace Session

variable {s : Session}

theorem validate_of_outcome {o : Outcome} (h : s.outcome = some o) :
    s.validate = (.ok o, s, []) := by
  simp only [validate, h]

theorem result_of_none (h : s.outcome = none) :
    s.validate.1 = (s.engine.run s.verifier s.asked).1 := by
  simp only [validate, h]

theorem asked_of_none (h : s.outcome = none) :
    s.validate.2.1.asked = (s.engine.run s.verifier s.asked).2.asked := by
  simp only [validate, h]

theorem validate_of_none (h : s.outcome = none) :
    s.validate.2.1 =
      { s with asked := s.validate.2.1.asked, outcome := s.validate.1.toOption } := by
  simp only [validate, h]

theorem outcome_validate (s : Session) : s.validate.2.1.outcome = s.validate.1.toOption := by
  cases h : s.outcome with
  | some o =>
    rw [validate_of_outcome h]
    exact h
  | none => rw [validate_of_none h]

theorem engine_validate (s : Session) : s.validate.2.1.engine = s.engine := by
  cases h : s.outcome with
  | some o => rw [validate_of_outcome h]
  | none => rw [validate_of_none h]

theorem verifier_validate (s : Session) : s.validate.2.1.verifier = s.verifier := by
  cases h : s.outcome with
  | some o => rw [validate_of_outcome h]
  | none => rw [validate_of_none h]

end Session

/-- An engine is built iff its rules can be read and each of them finds a check. -/
theorem Setup.build_eq_ok_iff {setup : Setup} {e : Engine} :
    setup.build.1 = .ok e ↔ ∃ rules, readDeclared setup.rules = .ok rules ∧
      (∀ entry ∈ rules, ∀ rule ∈ entry.2, ∃ check, setup.catalogue.find? rule.name = some check) ∧
      e = ⟨setup.name, rules, setup.catalogue, .ofPayload setup.payload setup.isFile,
        ⟨setup.messages, setup.names⟩, setup.now⟩ := by
  unfold Setup.build Setup.readRules
  simp only [← Catalogue.checkKnown_eq_ok_iff]
  cases hread : readDeclared setup.rules with
  | error fault => simp [bind, Except.bind]
  | ok rules =>
    cases hknown : setup.catalogue.checkKnown rules with
    | error fault => simp [hknown, bind, Except.bind]
    | ok done => simp [hknown, bind, Except.bind, pure, Except.pure, eq_comm]

theorem mem_pairs_iff {rules : RuleMap} {p : Pair} :
    p ∈ Engine.pairs rules ↔ (p.1, p.2.2) ∈ rules ∧ p.2.1 ∈ p.2.2 := by
  obtain ⟨field, rule, specs⟩ := p
  simp only [Engine.pairs, List.mem_flatMap, List.mem_map, Prod.mk.injEq, Prod.exists]
  constructor
  · rintro ⟨field, specs, hfield, rule, hrule, rfl, rfl, rfl⟩
    exact ⟨hfield, hrule⟩
  · rintro ⟨hfield, hrule⟩
    exact ⟨field, specs, hfield, rule, hrule, rfl, rfl, rfl⟩

theorem mem_pairs {rules : RuleMap} {p : Pair} (h : p ∈ Engine.pairs rules) :
    ∃ specs, (p.1, specs) ∈ rules ∧ p.2.1 ∈ specs :=
  ⟨p.2.2, mem_pairs_iff.mp h⟩

/-- **The first pass of a new engine.** It ends with a fault iff a rule of a field has one, and
    then with the first one. Otherwise its outcome holds the failures of exactly the rules that are
    run and not satisfied, in order, with their messages. The store is asked what the rules lead to
    that are reached, and nothing else. -/
theorem validate_new {setup : Setup} {e : Engine} (hbuilt : setup.build.1 = .ok e)
    (verifier : Option Verifier) :
    let all := Engine.pairs e.rules
    let result := ({ engine := e, verifier } : Session).validate.1
    let asked := ({ engine := e, verifier } : Session).validate.2.1.asked
    readDeclared setup.rules = .ok e.rules ∧
    (∀ p ∈ all, ∃ check, e.catalogue.find? p.2.1.name = some check) ∧
    ((∃ fault, result = .error fault) ↔
      ∃ step ∈ e.withHistory verifier [] all, e.fault? verifier step.1 step.2 ≠ none) ∧
    (∀ fault, result = .error fault ↔ e.firstFault? verifier [] all = some fault) ∧
    (∀ o, result = .ok o →
      o.failures = (e.failing verifier [] all).map Pair.failure ∧
      o.messages.length = o.failures.length ∧
      o.messages.map (fun m => (m.1, Except.ok m.2)) =
        (e.failing verifier [] all).map (fun p => (p.1, e.messages.resolve p.1 p.2.1)) ∧
      (o.passed = true ↔ o.failures = [])) ∧
    asked = (e.reached verifier [] all).filterMap (e.callOf? verifier) ∧
    (e.catalogue.AsksOnlyFor ["unique", "exists"] →
      ∀ p q, e.callOf? verifier p = some q → p.2.1.key ∈ ["unique", "exists"]) := by
  intro all result asked
  obtain ⟨rules, hread, hknown, he⟩ := Setup.build_eq_ok_iff.mp hbuilt
  have hrules : e.rules = rules := congrArg Engine.rules he
  have hcatalogue : e.catalogue = setup.catalogue := congrArg Engine.catalogue he
  rw [← hrules] at hread hknown
  rw [← hcatalogue] at hknown
  have hasked : asked = (e.reached verifier [] all).filterMap (e.callOf? verifier) := by
    change (e.run verifier []).2.asked = _
    rw [(Engine.run_eq e verifier []).2, Engine.evaluateAll_asked, List.nil_append]
  have hresult : result = Outcome.ofRecord <$> (e.evaluateAll verifier all {} {}).1 :=
    (Engine.run_eq e verifier []).1
  have hfault : ∀ fault, result = .error fault ↔ e.firstFault? verifier [] all = some fault := by
    intro fault
    cases hfirst : e.firstFault? verifier [] all with
    | some first =>
      rw [hresult, Engine.evaluateAll_of_fault hfirst]
      exact ⟨fun h => by cases h; rfl, fun h => by cases h; rfl⟩
    | none =>
      obtain ⟨final, hfinal, -, -⟩ := Engine.evaluateAll_of_no_fault (j := {}) {} hfirst
      rw [hresult, hfinal]
      exact ⟨fun h => (by cases h), fun h => (by cases h)⟩
  refine ⟨hread, ?_, ?_, hfault, ?_, hasked, ?_⟩
  · intro p hp
    obtain ⟨specs, hfield, hrule⟩ := mem_pairs hp
    exact hknown _ hfield _ hrule
  · simp only [hfault, Engine.firstFault?, ← Option.isSome_iff_exists, List.findSome?_isSome_iff,
      ← Option.isSome_iff_ne_none]
  · intro o ho
    have hfirst : e.firstFault? verifier [] all = none := by
      rw [Option.eq_none_iff_forall_ne_some]
      intro fault hsome
      rw [← hfault, ho] at hsome
      cases hsome
    obtain ⟨final, hfinal, hfailures, hmessages⟩ :=
      Engine.evaluateAll_of_no_fault (j := {}) {} hfirst
    rw [hresult, hfinal] at ho
    cases ho
    simp only [List.map_nil, List.nil_append] at hfailures hmessages
    refine ⟨hfailures, ?_, hmessages, List.isEmpty_iff⟩
    have hlength := congrArg List.length hmessages
    simpa [Outcome.ofRecord, hfailures] using hlength
  · intro honly p q hcall
    exact Engine.key_mem_of_callOf? honly hcall

/-- A taken address whose failure has no message: the store is asked, and the pass ends. -/
theorem validate_new_taken :
    let rule : Spec := ⟨"Unique", ["users"]⟩
    let setup : Setup :=
      { payload := [("email", .text "a@b.org")], rules := [("email", .list [.spec rule])]
        catalogue := builtin, now := default }
    let e : Engine :=
      ⟨"adhoc", [("email", [rule])], builtin, .ofPayload setup.payload, ⟨[], []⟩, default⟩
    let store : Verifier := ⟨fun _ _ => ⟨.ok (.int 1), []⟩⟩
    let session : Session := { engine := e, verifier := store }
    setup.build.1 = .ok e ∧
      session.validate.1 = .error (.noMessage "email" rule.readable) ∧
      session.validate.2.1.asked = [.single "users" "email" "a@b.org" none none []] := by
  -- kept closed, for its keys are computed by the tables of all letters
  generalize hcatalogue : builtin = catalogue
  intro rule setup e store session
  have hkey : Rule.key rule.name = "unique" := by
    rw [key_eq_ofList]
    exact congrArg String.ofList (by decide :
      lowerAfter [] (identifierChars "Unique".toList) = "unique".toList)
  have hfind : catalogue.find? rule.name = some uniqueCheck := by
    rw [← hcatalogue]
    exact find?_builtin_unique hkey
  have hbuilt : setup.build.1 = .ok e := by
    refine Setup.build_eq_ok_iff.mpr ⟨[("email", [rule])], rfl, ?_, rfl⟩
    simp only [List.mem_singleton, forall_eq]
    exact ⟨uniqueCheck, hfind⟩
  have happlies : Engine.applies ("email", rule, [rule]) (.text "a@b.org") = true := by
    simp [Engine.applies, skip?, Value.isAbsent, Value.isPresent, Text.allBlank, isBlank]
  have hjudged : e.judgement (some store) [] ("email", rule, [rule]) = .ok (some false) :=
    (Engine.judgement_of_find? (v := .text "a@b.org") [] rfl happlies hfind (Nat.le_refl 1)).trans rfl
  have hfault : e.fault? (some store) [] ("email", rule, [rule]) =
      some (.noMessage "email" rule.readable) :=
    Engine.fault?_of_no_message hjudged rfl
  have hcall : e.callOf? (some store) ("email", rule, [rule]) =
      some (.single "users" "email" "a@b.org" none none []) :=
    (Engine.callOf?_of_find? (v := .text "a@b.org") rfl happlies hfind (Nat.le_refl 1)).trans rfl
  obtain ⟨-, -, -, hresult, -, hasked, -⟩ := validate_new hbuilt (some store)
  refine ⟨hbuilt, (hresult _).mpr ?_, hasked.trans ?_⟩
  · exact (Engine.firstFault?_cons [] _ []).trans (by rw [hfault]; rfl)
  · exact (congrArg _ (Engine.reached_cons_of_fault [] hfault)).trans (by simp [hcall])

end PayloadCheck.Check
