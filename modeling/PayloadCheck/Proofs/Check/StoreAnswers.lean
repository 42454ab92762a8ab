import PayloadCheck.Check.Session
import PayloadCheck.Proofs.Check.Pass

/-!
# What comes of the answers of a store

A store may answer with any value, or with a fault. A rule on stored records is decided only by a
value that is a whole number or can be read as one, and then by that number alone. Any other answer
ends the pass: a fault of this library's own as it is, any other one as the fault of a store that
failed, which names it as its cause (`store_answers_decide`). A pass that ends leaves nothing behind
but what the store was asked (`Session.EndsAt`).
-/

namespace PayloadCheck.Check

open PayloadCheck.Presence PayloadCheck.Report PayloadCheck.Rule PayloadCheck.Text

/-! ### Counts -/

/-- A value that is no count is a fault that reaches the library from outside. -/
theorem countOf_fault {v : Value} {fault : Fault} (h : countOf v = .error fault) :
    fault.isOwn = false := by
  cases v with
  | double d => exact Double.truncated_fault h
  | text s => exact Value.integerOf_fault h
  | decimal d =>
    cases d with
    | finite negative digits exponent => cases h
    | infinite negative => cases h; rfl
    | undefined negative payload => cases h; rfl
  | bytes bs =>
    simp only [countOf] at h
    split at h
    · cases h
    · cases h; rfl
  | int i => cases h
  | bool b => cases h
  | _ => cases h; rfl

/-- A store's answer is a count iff it is a value that is a whole number or can be read as one. -/
theorem countAfter_eq_ok_iff {store : Verifier} {asked : List Query} {q : Query} {n : Int} :
    countAfter (some store) asked q = .ok n ↔
      ∃ answer, (store.reply asked q).answer = .ok answer ∧ countOf answer = .ok n := by
  simp only [countAfter]
  cases hreply : (store.reply asked q).answer with
  | error fault => simp [Except.bind, Except.mapError]
  | ok answer => cases hcount : countOf answer <;> simp [Except.bind, Except.mapError, hcount]

theorem countAfter_of_fault {store : Verifier} {asked : List Query} {q : Query} {fault : Fault}
    (h : (store.reply asked q).answer = .error fault) :
    countAfter (some store) asked q = .error (storeFault fault) := by
  simp only [countAfter, h]
  rfl

theorem countAfter_of_no_count {store : Verifier} {asked : List Query} {q : Query} {answer : Value}
    {fault : Fault} (hreply : (store.reply asked q).answer = .ok answer)
    (hcount : countOf answer = .error fault) :
    countAfter (some store) asked q = .error (storeFault fault) := by
  simp only [countAfter, hreply, Except.bind, hcount]
  rfl

theorem storeFault_of_own {fault : Fault} (h : fault.isOwn = true) : storeFault fault = fault :=
  if_pos h

theorem storeFault_of_not_own {fault : Fault} (h : fault.isOwn = false) :
    storeFault fault = .verifierAfter s!"Presence verifier failed: {fault.message}" fault := by
  simp [storeFault, h]

/-! ### Rules on stored records -/

/-- The least count that satisfies `exists`: one, or one for each item of a list. -/
def leastCount : Value → Nat
  | .list items | .tuple items => items.length
  | _ => 1

/-- Whether a count satisfies a rule on stored records for a value. -/
def satisfies (key : String) (v : Value) (count : Int) : Bool :=
  if key = "unique" then count == 0 else (leastCount v : Int) ≤ count

theorem length_of_comparables {items : List Value} {texts : List String}
    (h : comparables items = .ok texts) : texts.length = items.length := by
  induction items generalizing texts with
  | nil => cases h; rfl
  | cons item rest ih =>
    obtain ⟨text, -, h⟩ := Fault.bind_eq_ok_iff.mp h
    obtain ⟨more, hmore, h⟩ := Fault.bind_eq_ok_iff.mp h
    cases h
    rw [List.length_cons, List.length_cons, ih hmore]

theorem least_of_existsQuery {field : String} {v : Value} {ps : List String} {q : Query}
    {least : Nat} (h : existsQuery field v ps = .ok (q, least)) : least = leastCount v := by
  rw [existsQuery_eq] at h
  obtain ⟨table, -, h⟩ := Fault.bind_eq_ok_iff.mp h
  obtain ⟨extra, -, h⟩ := Fault.bind_eq_ok_iff.mp h
  cases v with
  | list items =>
    obtain ⟨texts, htexts, h⟩ := Fault.bind_eq_ok_iff.mp h
    cases h
    exact length_of_comparables htexts
  | tuple items =>
    obtain ⟨texts, htexts, h⟩ := Fault.bind_eq_ok_iff.mp h
    cases h
    exact length_of_comparables htexts
  | _ =>
    obtain ⟨text, -, h⟩ := Fault.bind_eq_ok_iff.mp h
    cases h
    rfl

/-- A rule on stored records is refused, or it asks and judges by the count alone. -/
theorem stored_run_cases {check : Check} (hmem : check ∈ storedChecks) (context : Context)
    (field : String) (v : Value) (ps : List String) :
    (∃ fault, check.run context field v ps = .refused fault) ∨
      ∃ q, check.run context field v ps = .asks q (satisfies check.name v) := by
  cases hverifier : context.hasVerifier with
  | false =>
    refine Or.inl ⟨.noVerifier, ?_⟩
    simp only [storedChecks, List.mem_cons, List.not_mem_nil, or_false] at hmem
    rcases hmem with rfl | rfl
    · simp [uniqueCheck, asking, hverifier]
    · simp [existsCheck, asking, hverifier]
  | true =>
    simp only [storedChecks, List.mem_cons, List.not_mem_nil, or_false] at hmem
    rcases hmem with rfl | rfl
    · cases hquery : uniqueQuery field v ps with
      | error fault =>
        refine Or.inl ⟨fault, ?_⟩
        simp only [uniqueCheck, asking, hverifier, if_true, hquery]
        rfl
      | ok q =>
        refine Or.inr ⟨q, ?_⟩
        simp only [uniqueCheck, asking, hverifier, if_true, hquery]
        rfl
    · cases hquery : existsQuery field v ps with
      | error fault =>
        refine Or.inl ⟨fault, ?_⟩
        simp only [existsCheck, asking, hverifier, if_true, hquery]
        rfl
      | ok found =>
        obtain ⟨q, least⟩ := found
        refine Or.inr ⟨q, ?_⟩
        have hleast := least_of_existsQuery hquery
        simp only [existsCheck, asking, hverifier, if_true, hquery, hleast]
        rfl

section

variable {e : Engine} {p : Pair} {v : Value} {check : Check}

theorem judgement_of_few (verifier : Option Verifier) (asked : List Query)
    (hvalue : e.bags.value p.1 = .ok v) (happlies : Engine.applies p v = true)
    (hfind : e.catalogue.find? p.2.1.name = some check)
    (hfew : p.2.1.parameters.length < check.arity) :
    (∃ fault, e.judgement verifier asked p = .error fault) ∧ e.callOf? verifier p = none := by
  simp only [Engine.judgement, Engine.callOf?, hvalue, happlies, if_true, Engine.answer,
    Engine.query?, Catalogue.lookUp_of_find? hfind, hfew]
  exact ⟨⟨_, rfl⟩, trivial⟩

/-- A rule on stored records that is run either asks and is judged by the count of the answer, or is
refused. -/
theorem stored_judgement (hmem : check ∈ storedChecks) (verifier : Option Verifier)
    (asked : List Query) (hvalue : e.bags.value p.1 = .ok v) (happlies : Engine.applies p v = true)
    (hfind : e.catalogue.find? p.2.1.name = some check) :
    (∃ store q, verifier = some store ∧ e.callOf? verifier p = some q ∧
      e.judgement verifier asked p =
        (fun n => some (satisfies check.name v n)) <$> countAfter (some store) asked q) ∨
    (e.callOf? verifier p = none ∧ ∃ fault, e.judgement verifier asked p = .error fault) := by
  by_cases hfew : p.2.1.parameters.length < check.arity
  · obtain ⟨hjudged, hcall⟩ := judgement_of_few verifier asked hvalue happlies hfind hfew
    exact Or.inr ⟨hcall, hjudged⟩
  · have harity : check.arity ≤ p.2.1.parameters.length := Nat.not_lt.mp hfew
    have hjudged : e.judgement verifier asked p = _ :=
      Engine.judgement_of_find? asked hvalue happlies hfind harity
    have hcall : e.callOf? verifier p = _ :=
      Engine.callOf?_of_find? hvalue happlies hfind harity
    rcases stored_run_cases hmem (e.context verifier.isSome) p.1 v p.2.1.parameters with
      ⟨fault, hrun⟩ | ⟨q, hrun⟩
    · rw [hrun] at hjudged hcall
      exact Or.inr ⟨hcall, fault, hjudged⟩
    · rw [hrun] at hjudged hcall
      cases verifier with
      | none => exact Or.inr ⟨hcall, .noVerifier, hjudged⟩
      | some store =>
        refine Or.inl ⟨store, q, rfl, hcall, ?_⟩
        refine hjudged.trans ?_
        change some <$> (satisfies check.name v <$> countAfter (some store) asked q) = _
        cases countAfter (some store) asked q <;> rfl

end

/-! ### Passes that end -/

/-- A session whose pass ends with a fault at a rule, behind some others. Nothing of the pass is
kept but what the store was asked up to that rule, and what stands behind it is not looked at. -/
structure Session.EndsAt (s : Session) (before : List Pair) (p : Pair) (fault : Fault) : Prop where
  result : s.validate.1 = .error fault
  left : s.validate.2.1 = { s with
    asked := s.engine.askedAfter s.verifier s.asked (before ++ [p]), outcome := none }
  unread : ∀ record rest, s.engine.evaluateAll s.verifier (before ++ p :: rest) record
    { asked := s.asked } =
      s.engine.evaluateAll s.verifier (before ++ [p]) record { asked := s.asked }

theorem Session.endsAt_of_fault {s : Session} (hnone : s.outcome = none)
    {before later : List Pair} {p : Pair} {fault : Fault}
    (hpairs : Engine.pairs s.engine.rules = before ++ p :: later)
    (hbefore : s.engine.firstFault? s.verifier s.asked before = none)
    (hfault : s.engine.fault? s.verifier (s.engine.askedAfter s.verifier s.asked before) p =
      some fault) : s.EndsAt before p fault := by
  have hfirst : s.engine.firstFault? s.verifier s.asked (Engine.pairs s.engine.rules) =
      some fault := by
    rw [hpairs, Engine.firstFault?_append, hbefore, Option.none_or, Engine.firstFault?_cons, hfault,
      Option.some_or]
  have hresult : s.validate.1 = .error fault := by
    rw [Session.result_of_none hnone, (Engine.run_eq s.engine s.verifier s.asked).1,
      Engine.evaluateAll_of_fault hfirst]
    rfl
  have hasked : s.validate.2.1.asked =
      s.engine.askedAfter s.verifier s.asked (before ++ [p]) := by
    rw [Session.asked_of_none hnone, (Engine.run_eq s.engine s.verifier s.asked).2,
      Engine.evaluateAll_asked, hpairs, Engine.reached_append_of_fault hbefore hfault]
    rfl
  refine ⟨hresult, ?_, fun record rest =>
    Engine.evaluateAll_stops (j := { asked := s.asked }) hbefore hfault record rest⟩
  rw [Session.validate_of_none hnone, hasked, hresult]
  rfl

end PayloadCheck.Check
