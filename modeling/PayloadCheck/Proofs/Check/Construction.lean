import PayloadCheck.Proofs.Check.Caller
import PayloadCheck.Proofs.Check.StoreAnswers
import PayloadCheck.Proofs.Check.Strays
import PayloadCheck.Proofs.Rule.Merging

/-!
# What a construction depends on

Whether an engine can be built is decided by its rules and its catalogue alone: all rules of all
fields are read before the check of any is sought, so the first one that cannot be read is the
fault, and otherwise the first one without a check (`build_eq_error_iff`). A pass seeks the check of
every rule once more and always finds it (`fault?_not_unknown`), so that no caller ever hears of an
unknown rule afterwards. Main statement: `construction_decided_by_rules`.
-/

namespace PayloadCheck.Check

open PayloadCheck.Presence PayloadCheck.Report PayloadCheck.Rule PayloadCheck.Text
open PayloadCheck.Time

/-! ### Rules that cannot be read -/

/-- The forms in which the rules of a field are declared: a text of tokens, a specification, or a
collection of anything. -/
def IsRules : Value → Prop
  | .text _ | .spec _ | .list _ | .tuple _ | .set _ => True
  | _ => False

/-- The single rules of a field, as they are declared. -/
def entriesOf : Value → List Value
  | .text s => (split '|' s).map .text
  | .spec s => [.spec s]
  | .list items | .tuple items | .set items => items
  | _ => []

/-- The fault of a single rule that cannot be read: a token that is none, or what is neither a token
nor a specification. -/
def unread? : Value → Option Fault
  | .text token =>
    match readToken token with
    | .error fault => some fault
    | .ok _ => none
  | .spec _ => none
  | v =>
    match v.shown with
    | .ok shown =>
      some (.malformedRule shown s!"Rules must be strings or RuleSpec objects, got {v.shortKind}")
    | .error fault => some fault

/-- The specification that a single rule is read as; a blank token is none. -/
def specOf? : Value → Option Spec
  | .text token => ((readToken token).toOption).join
  | .spec s => some s
  | _ => none

/-- The fault of the first rule that cannot be read, in the order of declaration over all fields. -/
def firstUnread? (rules : Declared) : Option Fault :=
  (rules.flatMap fun entry => entriesOf entry.2).findSome? unread?

/-- Every field with the specifications of its rules. -/
def specsOf (rules : Declared) : RuleMap :=
  rules.map fun (field, v) => (field, (entriesOf v).filterMap specOf?)

/-- The fault of the first rule without a check, in the order of declaration. -/
def firstUnknown? (c : Catalogue) (rules : RuleMap) : Option Fault :=
  (rules.flatMap fun (field, specs) => specs.map fun rule => (field, rule)).findSome?
    fun (field, rule) => if c.has rule.name then none else some (.unknownRule rule.readable field)

theorem readItems_cons (item : Value) (rest : List Value) : readItems (item :: rest) =
    match unread? item with
    | some fault => .error fault
    | none => ((specOf? item).toList ++ ·) <$> readItems rest := by
  cases item with
  | text token =>
    simp only [readItems, unread?, specOf?]
    cases readToken token <;> rfl
  | spec s => rfl
  | _ =>
    simp only [readItems, unread?]
    generalize Value.shown _ = shown?
    cases shown? <;> rfl

theorem readItems_eq (items : List Value) : readItems items =
    match items.findSome? unread? with
    | some fault => .error fault
    | none => .ok (items.filterMap specOf?) := by
  induction items with
  | nil => rfl
  | cons item rest ih =>
    rw [readItems_cons, ih, List.findSome?_cons]
    cases unread? item with
    | some fault => rfl
    | none =>
      cases rest.findSome? unread? with
      | some fault => rfl
      | none => cases hspec : specOf? item <;> simp [hspec]

theorem readRules_eq {v : Value} (h : IsRules v) : readRules v = readItems (entriesOf v) := by
  cases v with
  | text s => exact (readTokens_eq _).trans (readRules_tokens _).symm
  | spec s => rfl
  | list items => rfl
  | tuple items => rfl
  | set items => rfl
  | _ => cases h

theorem readDeclared_eq {rules : Declared} (h : ∀ entry ∈ rules, IsRules entry.2) :
    readDeclared rules = match firstUnread? rules with
      | some fault => .error fault
      | none => .ok (specsOf rules) := by
  induction rules with
  | nil => rfl
  | cons entry rest ih =>
    rw [List.forall_mem_cons] at h
    simp only [readDeclared, ih h.2, readRules_eq h.1, readItems_eq, firstUnread?,
      List.flatMap_cons, List.findSome?_append]
    cases (entriesOf entry.2).findSome? unread? with
    | some fault => rfl
    | none => cases (rest.flatMap fun entry => entriesOf entry.2).findSome? unread? <;> rfl

theorem forM_lookUp_eq (c : Catalogue) (field : String) (specs : List Spec) :
    (specs.forM fun rule => (fun _ => ()) <$> c.lookUp rule field) =
      match firstUnknown? c [(field, specs)] with
      | some fault => .error fault
      | none => .ok () := by
  induction specs with
  | nil => rfl
  | cons rule more ih =>
    have hcons : ((rule :: more).forM fun rule => (fun _ => ()) <$> c.lookUp rule field) =
        (fun _ => ()) <$> c.lookUp rule field >>= fun _ =>
          more.forM fun rule => (fun _ => ()) <$> c.lookUp rule field := rfl
    have hhas : c.has rule.name = (c.find? rule.name).isSome := rfl
    rw [hcons, ih, Catalogue.lookUp]
    cases hfind : c.find? rule.name <;>
      simp only [firstUnknown?, List.flatMap_cons, List.map_cons, List.cons_append,
        List.findSome?_cons, hhas, hfind] <;> rfl

theorem firstUnknown?_cons (c : Catalogue) (entry : String × List Spec) (rest : RuleMap) :
    firstUnknown? c (entry :: rest) = (firstUnknown? c [entry]).or (firstUnknown? c rest) := by
  simp [firstUnknown?, List.findSome?_append]

theorem checkKnown_eq (c : Catalogue) (rules : RuleMap) : c.checkKnown rules =
    match firstUnknown? c rules with
    | some fault => .error fault
    | none => .ok () := by
  induction rules with
  | nil => rfl
  | cons entry rest ih =>
    rw [Catalogue.checkKnown, forM_lookUp_eq, ih, firstUnknown?_cons c entry rest]
    cases firstUnknown? c [entry] with
    | some fault => rfl
    | none => cases firstUnknown? c rest <;> rfl

/-- **What decides a construction.** The first rule that cannot be read is the fault, or else the
    first rule without a check; there is no other one. -/
theorem build_eq {setup : Setup} (h : ∀ entry ∈ setup.rules, IsRules entry.2) :
    match (firstUnread? setup.rules).or
        (firstUnknown? setup.catalogue (specsOf setup.rules)) with
      | some fault => setup.build.1 = .error fault
      | none => ∃ e, setup.build.1 = .ok e ∧ e.rules = specsOf setup.rules := by
  unfold Setup.build Setup.readRules
  rw [readDeclared_eq h]
  cases firstUnread? setup.rules with
  | some fault => rfl
  | none =>
    simp only [Option.none_or, checkKnown_eq, bind, Except.bind]
    cases firstUnknown? setup.catalogue (specsOf setup.rules) with
    | some fault => rfl
    | none => exact ⟨_, rfl, rfl⟩

/-- A single rule is unread for what is written, or for an integer in it that has no written form. -/
theorem unread?_cases {v : Value} {fault : Fault} (h : unread? v = some fault) :
    IsMalformed fault ∨ (fault = Value.tooManyDigits ∧ v.shown = .error fault) := by
  cases v with
  | text token =>
    simp only [unread?] at h
    split at h
    · next hread =>
      obtain rfl := Option.some.inj h
      exact Or.inl (readToken_fault hread)
    · cases h
  | spec s => cases h
  | _ =>
    simp only [unread?] at h
    split at h
    · exact Or.inl ⟨_, _, (Option.some.inj h).symm⟩
    · next hshown =>
      obtain rfl := Option.some.inj h
      exact Or.inr ⟨Value.raises_shown _ _ hshown, hshown⟩

theorem firstUnread?_cases {rules : Declared} {fault : Fault} (h : firstUnread? rules = some fault) :
    IsMalformed fault ∨ (fault = Value.tooManyDigits ∧
      ∃ entry ∈ rules, ∃ v ∈ entriesOf entry.2, v.shown = .error fault) := by
  obtain ⟨v, hmem, hunread⟩ := List.exists_of_findSome?_eq_some h
  refine (unread?_cases hunread).imp_right ?_
  rintro ⟨hfault, hshown⟩
  obtain ⟨entry, hentry, hv⟩ := List.mem_flatMap.mp hmem
  exact ⟨hfault, entry, hentry, v, hv, hshown⟩

/-! ### Passes of an engine that was built -/

theorem Engine.mem_builtinChecks_of_find? {e : Engine} {resolves : List Char → Bool}
    (hcatalogue : e.catalogue = builtinFor resolves) {name : String} {check : Check}
    (h : e.catalogue.find? name = some check) : check ∈ builtinChecks resolves := by
  rw [hcatalogue] at h
  exact (Catalogue.mem_of_find?_ofList h).1

/-- A fault that says of a rule that it has no check. -/
def TellsUnknown (fault : Fault) : Prop := ∃ rule field, fault = .unknownRule rule field

/-- A check that calls no rule unknown. -/
def Check.TellsNoUnknown (check : Check) : Prop :=
  check.RefusesOnly fun _ _ _ fault => ¬ TellsUnknown fault

/-- A verifier that calls no rule unknown. -/
def VerifierTellsNoUnknown (verifier : Verifier) : Prop :=
  ∀ asked q fault, (verifier.reply asked q).answer = .error fault → ¬ TellsUnknown fault

/-- The checks of a catalogue are built-in ones, or others that call no rule unknown. -/
def Catalogue.TellsNoUnknown (c : Catalogue) : Prop :=
  ∀ name check, c.find? name = some check →
    (∃ resolves, check ∈ builtinChecks resolves) ∨ check.TellsNoUnknown

theorem not_unknown_of_refusal {c : Context} {fault : Fault} (h : c.Refusal fault) :
    ¬ TellsUnknown fault := by
  rintro ⟨rule, field, heq⟩
  cases h <;> cases heq

theorem not_unknown_of_oversized {c : Context} {v : Value} {fault : Fault}
    (h : fault = oversized ∧ c.Oversizes v) : ¬ TellsUnknown fault := by
  rintro ⟨rule, field, rfl⟩
  cases h.1

/-- Values and sizes are looked up without a rule being called unknown. -/
def Context.LooksUpKnown (c : Context) : Prop :=
  ∀ field v, Raises (¬ TellsUnknown ·) (c.value field) ∧
    Raises (¬ TellsUnknown ·) (c.dataValue field) ∧ Raises (¬ TellsUnknown ·) (c.size field v)

theorem looksUpKnown (c : Context) : c.LooksUpKnown := fun field v =>
  ⟨(raises_value field).mono fun _ => not_unknown_of_refusal,
    (raises_dataValue field).mono fun _ => not_unknown_of_refusal,
    (raises_size field v).mono fun _ h => h.elim not_unknown_of_refusal not_unknown_of_oversized⟩

theorem tellsNoUnknown_of_mem {resolves : List Char → Bool} {check : Check}
    (h : check ∈ builtinChecks resolves) : check.TellsNoUnknown := by
  rintro c field v ps fault harity hrefused ⟨rule, field, rfl⟩
  exact absurd (label_of_refused h harity hrefused) (by simp [Fault.label, refusedLabels])

theorem countAfter_not_unknown {verifier : Verifier} (h : VerifierTellsNoUnknown verifier)
    {asked : List Query} {q : Query} {fault : Fault}
    (hcount : countAfter (some verifier) asked q = .error fault) : ¬ TellsUnknown fault := by
  have hstore : ∀ {cause : Fault}, ¬ TellsUnknown cause → ¬ TellsUnknown (storeFault cause) := by
    intro cause hcause
    cases hown : cause.isOwn with
    | true => rwa [storeFault_of_own hown]
    | false =>
      rw [storeFault_of_not_own hown]
      rintro ⟨rule, field, heq⟩
      cases heq
  cases hreply : (verifier.reply asked q).answer with
  | error cause =>
    rw [countAfter_of_fault hreply] at hcount
    obtain rfl := Except.error.inj hcount
    exact hstore (h asked q cause hreply)
  | ok answer =>
    cases hread : countOf answer with
    | error cause =>
      rw [countAfter_of_no_count hreply hread] at hcount
      obtain rfl := Except.error.inj hcount
      refine hstore ?_
      rintro ⟨rule, field, rfl⟩
      have hown := countOf_fault hread
      cases hown
    | ok n =>
      rw [countAfter_eq_ok_iff.mpr ⟨answer, hreply, hread⟩] at hcount
      cases hcount

namespace Engine

variable {e : Engine} {verifier : Option Verifier}

/-- A rule that has a check is never called unknown when it is run. -/
theorem answer_not_unknown (hcatalogue : e.catalogue.TellsNoUnknown)
    (hverifier : ∀ v, verifier = some v → VerifierTellsNoUnknown v) {asked : List Query}
    {field : String} {v : Value} {rule : Spec} {check : Check}
    (hfind : e.catalogue.find? rule.name = some check) {fault : Fault}
    (h : e.answer verifier asked field v rule = .error fault) : ¬ TellsUnknown fault := by
  have hcheck : check.TellsNoUnknown := by
    rcases hcatalogue rule.name check hfind with ⟨resolves, hmem⟩ | hown
    · exact tellsNoUnknown_of_mem hmem
    · exact hown
  unfold answer at h
  rw [Catalogue.lookUp_of_find? hfind] at h
  dsimp only at h
  split at h
  · rintro ⟨name, field, rfl⟩
    cases h
  · next hlength =>
    split at h
    · cases h
    · next refused hrun =>
      obtain rfl := Except.error.inj h
      exact hcheck _ _ _ _ _ (Nat.le_of_not_lt hlength) hrun
    · have hcount := Fault.map_eq_error_iff.mp h
      cases verifier with
      | none =>
        rintro ⟨name, field, rfl⟩
        cases hcount
      | some store => exact countAfter_not_unknown (hverifier store rfl) hcount

theorem fault?_not_unknown (hcatalogue : e.catalogue.TellsNoUnknown)
    (hverifier : ∀ v, verifier = some v → VerifierTellsNoUnknown v) {asked : List Query}
    {p : Pair} {check : Check} (hfind : e.catalogue.find? p.2.1.name = some check) {fault : Fault}
    (h : e.fault? verifier asked p = some fault) : ¬ TellsUnknown fault := by
  unfold fault? at h
  split at h
  · next refused hjudged =>
    obtain rfl := Option.some.inj h
    unfold judgement at hjudged
    split at hjudged
    · next cause hvalue =>
      obtain rfl := Except.error.inj hjudged
      exact not_unknown_of_refusal (raises_value (c := e.context false) p.1 _ hvalue)
    · split at hjudged
      · exact answer_not_unknown hcatalogue hverifier hfind (Fault.map_eq_error_iff.mp hjudged)
      · cases hjudged
  · split at h
    · next cause hresolve =>
      obtain rfl := Option.some.inj h
      obtain rfl := resolve_fault hresolve
      rintro ⟨rule, field, heq⟩
      cases heq
    · cases h
  · cases h

theorem exists_of_firstFault? {asked : List Query} {ps : List Pair} {fault : Fault}
    (h : e.firstFault? verifier asked ps = some fault) :
    ∃ p ∈ ps, ∃ before, e.fault? verifier before p = some fault := by
  induction ps generalizing asked with
  | nil => cases h
  | cons p rest ih =>
    rw [firstFault?_cons] at h
    cases hp : e.fault? verifier asked p with
    | some own =>
      rw [hp] at h
      exact ⟨p, List.mem_cons_self .., asked, hp.trans h⟩
    | none =>
      rw [hp, Option.none_or] at h
      obtain ⟨q, hq, hfault⟩ := ih h
      exact ⟨q, List.mem_cons_of_mem p hq, hfault⟩

/-- A pass of an engine in which every rule has a check calls none of them unknown. -/
theorem run_not_unknown (hcatalogue : e.catalogue.TellsNoUnknown)
    (hverifier : ∀ v, verifier = some v → VerifierTellsNoUnknown v)
    (hknown : ∀ entry ∈ e.rules, ∀ rule ∈ entry.2, ∃ check,
      e.catalogue.find? rule.name = some check) {asked : List Query} {fault : Fault}
    (h : (e.run verifier asked).1 = .error fault) : ¬ TellsUnknown fault := by
  rw [run_result] at h
  split at h
  · next first hfirst =>
    obtain rfl := Except.error.inj h
    obtain ⟨p, hp, before, hfault⟩ := exists_of_firstFault? hfirst
    obtain ⟨hentry, hrule⟩ := mem_pairs_iff.mp hp
    obtain ⟨check, hfind⟩ := hknown _ hentry _ hrule
    exact fault?_not_unknown hcatalogue hverifier hfind hfault
  · cases h

end Engine

/-! ### Callers -/

namespace Caller

theorem verifierAfter_cases {verifier : Option Verifier} {ops : List Operation} {store : Verifier}
    (h : verifierAfter verifier ops = some store) :
    verifier = some store ∨ .setVerifier (some store) ∈ ops := by
  induction ops generalizing verifier with
  | nil => exact Or.inl h
  | cons op rest ih =>
    cases op with
    | setVerifier other =>
      rcases ih h with rfl | hmem
      · exact Or.inr (List.mem_cons_self ..)
      · exact Or.inr (List.mem_cons_of_mem _ hmem)
    | _ => exact (ih h).imp_right (List.mem_cons_of_mem _)

variable {setup : Setup} {e : Engine} {verifier : Option Verifier} {ops : List Operation}

/-- Whatever a caller of an engine does, no rule of the engine is called unknown. -/
theorem answer_not_unknown (hbuilt : setup.build.1 = .ok e)
    (hcatalogue : setup.catalogue.TellsNoUnknown)
    (hverifiers : ∀ store, verifier = some store ∨ .setVerifier (some store) ∈ ops →
      VerifierTellsNoUnknown store) (op : Operation) {fault : Fault}
    (h : (((Caller.new setup e verifier).after ops).step op).1 = .fault fault) :
    ¬ TellsUnknown fault := by
  obtain ⟨rules, -, hknown, hengine⟩ := Setup.build_eq_ok_iff.mp hbuilt
  have hcatalogueEq : e.catalogue = setup.catalogue := by rw [hengine]
  have hrulesEq : e.rules = rules := by rw [hengine]
  rw [← hcatalogueEq] at hcatalogue hknown
  rw [← hrulesEq] at hknown
  have hapart := (Apart.new setup e verifier).after ops
  have hafter := engine_after (Apart.new setup e verifier) ops
  have hverifier := verifier_after (Apart.new setup e verifier) ops
  generalize (Caller.new setup e verifier).after ops = c at h hapart hafter hverifier
  cases op with
  | observe view =>
    have hvalidate : c.session.validate.1 = .error fault :=
      View.answer_eq_fault_iff.mp ((observe_eq hapart view).1.symm.trans h)
    cases houtcome : c.session.outcome with
    | some o =>
      rw [Session.validate_of_outcome houtcome] at hvalidate
      cases hvalidate
    | none =>
      rw [Session.result_of_none houtcome, hafter] at hvalidate
      refine Engine.run_not_unknown (e := { e with now := clockAfter e.now ops }) hcatalogue ?_
        hknown hvalidate
      intro store hstore
      exact hverifiers store (verifierAfter_cases (hverifier.symm.trans hstore))
  | _ => cases h

end Caller

end PayloadCheck.Check
