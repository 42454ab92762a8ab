import PayloadCheck.Check.Caller
import PayloadCheck.Proofs.Check.Pass

/-!
# What a caller gets to see

Until a pass is completed, every look at the outcome runs a pass of its own, as a session would
that is built at that moment with the verifier in use; a pass that ends with a fault leaves nothing
behind. Once a pass is completed every look shows its outcome, whatever the caller does to the
verifier, to what it brought along and to the lists that it was handed (`observe_run`). The reason
is that the list of the outcome's messages is at a place that nobody is handed (`Caller.Apart`).
-/

namespace PayloadCheck.Check

open PayloadCheck.Presence PayloadCheck.Report PayloadCheck.Rule PayloadCheck.Text PayloadCheck.Time

theorem View.answer_eq_fault_iff {view : View} {result : Except Fault Outcome} {fault : Fault} :
    view.answer result = .fault fault ↔ result = .error fault := by
  cases result with
  | error other => simp [View.answer]
  | ok o =>
    have hlook : view.look o ≠ .fault fault := by
      cases view with
      | summary =>
        simp only [View.look]
        split <;> simp
      | _ => simp [View.look]
    simp [View.answer, hlook]

namespace Caller

variable {c : Caller}

/-! ### Lists and places -/

/-- The messages of the outcome are in the list at their place, that place was not handed out, and
what was handed out are places of lists. -/
structure Apart (c : Caller) : Prop where
  kept : ∀ o, c.session.outcome = some o → c.lists[c.kept]? = some o.messages
  notHanded : ∀ o, c.session.outcome = some o → c.kept ∉ c.handed
  placed : ∀ place ∈ c.handed, place < c.lists.length

theorem Apart.new (setup : Setup) (engine : Engine) (verifier : Option Verifier) :
    (Caller.new setup engine verifier).Apart where
  kept o ho := by cases ho
  notHanded o ho := by cases ho
  placed place hplace := by cases hplace

theorem Apart.current_eq (h : c.Apart) : c.current = c.session := by
  have hmap : c.session.outcome.map (fun o => { o with messages := (c.lists[c.kept]?).getD [] }) =
      c.session.outcome := by
    cases ho : c.session.outcome with
    | none => rfl
    | some o => simp [h.kept o ho]
  unfold current
  rw [hmap]

/-- A new outcome is put at a place behind all that were handed out. -/
theorem Apart.keep {o : Outcome} (ho : c.session.outcome = some o)
    (hplaced : ∀ place ∈ c.handed, place < c.lists.length) : (c.keep o).Apart where
  kept other hother := by
    have heq : o = other := Option.some.inj (ho.symm.trans hother)
    simp [Caller.keep, heq]
  notHanded _ _ hmem := by
    have hlt := hplaced _ hmem
    simp only [Caller.keep] at hlt
    omega
  placed place hplace := by
    have hlt := hplaced place hplace
    simp only [Caller.keep, List.length_append, List.length_singleton]
    omega

/-- A copy is handed out at a new place. -/
theorem Apart.hand (h : c.Apart) (messages : List (String × String)) : (c.hand messages).Apart where
  kept o ho := by
    have hkept := h.kept o ho
    have hlt : c.kept < c.lists.length := (List.getElem?_eq_some_iff.mp hkept).1
    simp only [Caller.hand]
    rw [List.getElem?_append_left hlt]
    exact hkept
  notHanded o ho hmem := by
    have hlt : c.kept < c.lists.length := (List.getElem?_eq_some_iff.mp (h.kept o ho)).1
    simp only [Caller.hand, List.mem_append, List.mem_singleton] at hmem
    rcases hmem with hmem | heq
    · exact h.notHanded o ho hmem
    · omega
  placed place hplace := by
    simp only [Caller.hand, List.mem_append, List.mem_singleton] at hplace
    simp only [Caller.hand, List.length_append, List.length_singleton]
    rcases hplace with hplace | heq
    · have hlt := h.placed place hplace
      omega
    · omega

/-- What is added to a list that was handed out does not reach the messages of the outcome. -/
theorem Apart.append (h : c.Apart) (list : Nat) (message : String × String) :
    (c.append list message).Apart := by
  unfold Caller.append
  cases hplace : c.handed[list]? with
  | none => exact h
  | some place =>
    have hmem : place ∈ c.handed := List.mem_of_getElem? hplace
    refine ⟨fun o ho => ?_, h.notHanded, fun other hother => ?_⟩
    · have hne : place ≠ c.kept := fun heq => h.notHanded o ho (heq ▸ hmem)
      rw [List.getElem?_modify_ne _ _ hne]
      exact h.kept o ho
    · simp only [List.length_modify]
      exact h.placed other hother

/-! ### One operation -/

/-- A look shows what the session finds, and does to the session what finding it does. -/
theorem observe_eq (h : c.Apart) (view : View) :
    (c.observe view).1 = view.answer c.session.validate.1 ∧
      (c.observe view).2.session = c.session.validate.2.1 ∧
      (c.observe view).2.own = c.own ∧
      (c.observe view).2.log = c.log ++ c.session.validate.2.2 := by
  unfold observe
  rw [h.current_eq]
  obtain ⟨result, session, events⟩ := c.session.validate
  cases result with
  | error fault => exact ⟨rfl, rfl, rfl, rfl⟩
  | ok o =>
    refine ⟨rfl, ?_, ?_, ?_⟩
    all_goals
      simp only
      split <;> split <;> rfl

theorem Apart.observe (h : c.Apart) (view : View) : (c.observe view).2.Apart := by
  have houtcome := Session.outcome_validate c.session
  unfold Caller.observe
  rw [h.current_eq]
  cases hkept : c.session.outcome with
  | some o =>
    rw [Session.validate_of_outcome hkept]
    have hsame : ({ c with session := c.session, log := c.log ++ [] } : Caller).Apart :=
      ⟨h.kept, h.notHanded, h.placed⟩
    simp only [Option.isSome_some, if_true]
    split
    · exact hsame.hand o.messages
    · exact hsame
  | none =>
    generalize c.session.validate = found at houtcome ⊢
    obtain ⟨result, session, events⟩ := found
    cases result with
    | error fault =>
      have hnone : session.outcome = none := houtcome
      refine ⟨fun o ho => ?_, fun o ho => ?_, h.placed⟩
      · rw [hnone] at ho
        cases ho
      · rw [hnone] at ho
        cases ho
    | ok o =>
      have hnew : (({ c with session, log := c.log ++ events } : Caller).keep o).Apart :=
        Apart.keep houtcome h.placed
      simp only [Option.isSome_none, Bool.false_eq_true, if_false]
      split
      · exact hnew.hand o.messages
      · exact hnew

theorem Apart.step (h : c.Apart) (op : Operation) : (c.step op).2.Apart := by
  cases op with
  | observe view => exact h.observe view
  | append list message => exact h.append list message
  | setVerifier verifier => exact ⟨h.kept, h.notHanded, h.placed⟩
  | changePayload payload => exact ⟨h.kept, h.notHanded, h.placed⟩
  | changeRules rules => exact ⟨h.kept, h.notHanded, h.placed⟩
  | changeMessages messages => exact ⟨h.kept, h.notHanded, h.placed⟩
  | wait now => exact ⟨h.kept, h.notHanded, h.placed⟩

theorem after_append (c : Caller) (first rest : List Operation) :
    c.after (first ++ rest) = (c.after first).after rest := by
  induction first generalizing c with
  | nil => rfl
  | cons op first ih => exact ih (c.step op).2

theorem after_concat (c : Caller) (ops : List Operation) (op : Operation) :
    c.after (ops ++ [op]) = ((c.after ops).step op).2 := after_append c ops [op]

theorem Apart.after (h : c.Apart) (ops : List Operation) : (c.after ops).Apart := by
  induction ops generalizing c with
  | nil => exact h
  | cons op rest ih => exact ih (h.step op)

/-- What an operation does to the session. -/
def nextSession (s : Session) : Operation → Session
  | .observe _ => s.validate.2.1
  | .setVerifier verifier => s.setVerifier verifier
  | .wait now => { s with engine.now := now }
  | _ => s

theorem session_step (h : c.Apart) (op : Operation) :
    (c.step op).2.session = nextSession c.session op := by
  cases op with
  | observe view => exact (observe_eq h view).2.1
  | append list message =>
    simp only [Caller.step, Caller.append, nextSession]
    split <;> rfl
  | _ => rfl

/-! ### Many operations -/

/-- The verifier in use after operations. -/
def verifierAfter (verifier : Option Verifier) : List Operation → Option Verifier
  | [] => verifier
  | .setVerifier other :: rest => verifierAfter other rest
  | _ :: rest => verifierAfter verifier rest

/-- The moment that it is after operations. -/
def clockAfter (now : Moment) : List Operation → Moment
  | [] => now
  | .wait later :: rest => clockAfter later rest
  | _ :: rest => clockAfter now rest

theorem verifier_after (h : c.Apart) (ops : List Operation) :
    (c.after ops).session.verifier = verifierAfter c.session.verifier ops := by
  induction ops generalizing c with
  | nil => rfl
  | cons op rest ih =>
    rw [Caller.after, ih (h.step op), session_step h op]
    cases op with
    | observe view => rw [nextSession, Session.verifier_validate]; rfl
    | _ => rfl

theorem engine_after (h : c.Apart) (ops : List Operation) :
    (c.after ops).session.engine =
      { c.session.engine with now := clockAfter c.session.engine.now ops } := by
  induction ops generalizing c with
  | nil => rfl
  | cons op rest ih =>
    rw [Caller.after, ih (h.step op), session_step h op]
    cases op with
    | observe view => rw [nextSession, Session.engine_validate]; rfl
    | _ => rfl

/-- An outcome stays as it is through any operation. -/
theorem outcome_step {o : Outcome} (h : c.Apart) (ho : c.session.outcome = some o)
    (op : Operation) : (c.step op).2.session.outcome = some o := by
  rw [session_step h op]
  cases op with
  | observe view => rw [nextSession, Session.validate_of_outcome ho]; exact ho
  | _ => exact ho

theorem outcome_after {o : Outcome} (h : c.Apart) (ho : c.session.outcome = some o)
    (ops : List Operation) : (c.after ops).session.outcome = some o := by
  induction ops generalizing c with
  | nil => exact ho
  | cons op rest ih => exact ih (h.step op) (outcome_step h ho op)

/-- A look meets a fault iff no outcome is kept after it. -/
theorem observe_faults_iff (h : c.Apart) (view : View) :
    (∃ fault, (c.step (.observe view)).1 = .fault fault) ↔
      (c.step (.observe view)).2.session.outcome = none := by
  obtain ⟨hanswer, hsession, -, -⟩ := observe_eq h view
  simp only [Caller.step, hanswer, hsession, Session.outcome_validate, View.answer_eq_fault_iff]
  cases c.session.validate.1 with
  | error fault => simp [Except.toOption]
  | ok o => simp [Except.toOption]

/-- No outcome is kept iff every look so far met a fault. -/
theorem outcome_after_eq_none_iff (h : c.Apart) (hnone : c.session.outcome = none)
    (ops : List Operation) :
    (c.after ops).session.outcome = none ↔
      ∀ first view rest, ops = first ++ .observe view :: rest →
        ∃ fault, ((c.after first).step (.observe view)).1 = .fault fault := by
  induction ops generalizing c with
  | nil => simp [Caller.after, hnone]
  | cons op rest ih =>
    rw [Caller.after]
    constructor
    · intro hend first view later heq
      have hstep : (c.step op).2.session.outcome = none := by
        rw [Option.eq_none_iff_forall_ne_some]
        intro o ho
        rw [outcome_after (h.step op) ho rest] at hend
        cases hend
      cases first with
      | nil =>
        obtain ⟨rfl, rfl⟩ := List.cons.inj heq
        exact (observe_faults_iff h view).mpr hstep
      | cons op' first =>
        obtain ⟨rfl, hrest⟩ := List.cons.inj heq
        exact (ih (h.step op) hstep).mp hend first view later hrest
    · intro hall
      have hstep : (c.step op).2.session.outcome = none := by
        cases op with
        | observe view => exact (observe_faults_iff h view).mp (hall [] view rest rfl)
        | _ =>
          rw [session_step h]
          exact hnone
      refine (ih (h.step op) hstep).mpr ?_
      intro first view later heq
      exact hall (op :: first) view later (congrArg (op :: ·) heq)

end Caller

/-- Rules and payload do not depend on the moment at which a session is built. -/
theorem Setup.build_later {setup : Setup} {e : Engine} (hbuilt : setup.build.1 = .ok e)
    (now : Moment) : ({ setup with now } : Setup).build.1 = .ok { e with now } := by
  obtain ⟨rules, hread, hknown, rfl⟩ := Setup.build_eq_ok_iff.mp hbuilt
  exact Setup.build_eq_ok_iff.mpr ⟨rules, hread, hknown, rfl⟩

namespace Caller

/-- **What looks at the outcome show.** As long as every look met a fault no outcome is kept, and
    the next look gets what a session gets that is built at that moment with the verifier in use; the
    session is then left as that one is. From the first look on that meets no fault, every look
    shows the outcome of that pass, and no pass is run for it. -/
theorem observe_run {setup : Setup} {e : Engine} (hbuilt : setup.build.1 = .ok e)
    (verifier : Option Verifier) (before : List Operation) :
    let start := Caller.new setup e verifier
    let c := start.after before
    let now := clockAfter setup.now before
    let rebuilt : Session :=
      { engine := { e with now }, verifier := verifierAfter verifier before
        asked := c.session.asked }
    ({ setup with now } : Setup).build.1 = .ok rebuilt.engine ∧
    (c.session.outcome = none ↔
      ∀ first view rest, before = first ++ .observe view :: rest →
        ∃ fault, ((start.after first).step (.observe view)).1 = .fault fault) ∧
    (c.session.outcome = none → ∀ view,
      let d := (c.step (.observe view)).2
      (c.step (.observe view)).1 = view.answer rebuilt.validate.1 ∧
      d.session = { rebuilt with
        asked := rebuilt.validate.2.1.asked, outcome := rebuilt.validate.1.toOption } ∧
      d.log = c.log ++ rebuilt.validate.2.2) ∧
    ∀ o, c.session.outcome = some o → ∀ later view,
      let d := c.after later
      d.session.outcome = some o ∧
      (d.step (.observe view)).1 = view.look o ∧
      (d.step (.observe view)).2.session = d.session ∧
      (d.step (.observe view)).2.log = d.log := by
  intro start c now rebuilt
  have hstart : start.Apart := .new setup e verifier
  have hc : c.Apart := hstart.after before
  have hnow : e.now = setup.now := by
    obtain ⟨rules, -, -, rfl⟩ := Setup.build_eq_ok_iff.mp hbuilt
    rfl
  refine ⟨Setup.build_later hbuilt now, outcome_after_eq_none_iff hstart rfl before, ?_, ?_⟩
  · intro hnone view d
    have hsession : c.session = rebuilt := by
      have hengine : c.session.engine = { e with now } :=
        (engine_after hstart before).trans (by rw [show start.session.engine = e from rfl, hnow])
      have hverifier : c.session.verifier = verifierAfter verifier before :=
        verifier_after hstart before
      calc c.session
        _ = ⟨c.session.engine, c.session.verifier, c.session.asked, c.session.outcome⟩ := rfl
        _ = rebuilt := by rw [hengine, hverifier, hnone]
    obtain ⟨hanswer, hleft, -, hlog⟩ := observe_eq hc view
    rw [hsession] at hanswer hleft hlog
    exact ⟨hanswer, hleft.trans (Session.validate_of_none rfl), hlog⟩
  · intro o ho later view d
    have hkept : d.session.outcome = some o := outcome_after hc ho later
    obtain ⟨hanswer, hleft, -, hlog⟩ := observe_eq (hc.after later) view
    rw [Session.validate_of_outcome hkept] at hanswer hleft hlog
    exact ⟨hkept, hanswer, hleft, hlog.trans (List.append_nil _)⟩

/-- A store that cannot be reached, then one without records, then one that holds the address: the
first look meets a fault, the second succeeds, and so does the last one, although the caller put
another address into the payload as well. -/
theorem observe_run_retried :
    let rule : Spec := ⟨"Unique", ["users"]⟩
    let setup : Setup :=
      { payload := [("email", .text "a@b.org")], rules := [("email", .list [.spec rule])]
        catalogue := builtin, now := default }
    let e : Engine :=
      ⟨"adhoc", [("email", [rule])], builtin, .ofPayload setup.payload, ⟨[], []⟩, default⟩
    let down : Verifier := ⟨fun _ _ => ⟨.error (.unreachable "down"), []⟩⟩
    let free : Verifier := ⟨fun _ _ => ⟨.ok (.int 0), []⟩⟩
    let taken : Verifier := ⟨fun _ _ => ⟨.ok (.int 1), []⟩⟩
    let start := Caller.new setup e (some down)
    let retry := [.observe .passes, .setVerifier free]
    let change := [.setVerifier taken, .changePayload [("email", .text "b")]]
    setup.build.1 = .ok e ∧
      (start.step (.observe .passes)).1 =
        .fault (.verifierAfter "Presence verifier failed: down" (.unreachable "down")) ∧
      ((start.after retry).step (.observe .passes)).1 = .truth true ∧
      (((start.after (retry ++ [.observe .passes])).after change).step (.observe .passes)).1 =
        .truth true := by
  -- kept closed, for its keys are computed by the tables of all letters
  generalize hcatalogue : builtin = catalogue
  intro rule setup e down free taken start retry change
  have hkey : Rule.key rule.name = "unique" := key_of_chars (by decide)
  have hfind : catalogue.find? rule.name = some uniqueCheck := by
    rw [← hcatalogue]
    exact find?_builtin_unique hkey
  have hbuilt : setup.build.1 = .ok e := by
    refine Setup.build_eq_ok_iff.mpr ⟨[("email", [rule])], rfl, ?_, rfl⟩
    simp only [List.mem_singleton, forall_eq]
    exact ⟨uniqueCheck, hfind⟩
  have happlies : Engine.applies ("email", rule, [rule]) (.text "a@b.org") = true := by
    simp [Engine.applies, skip?, Value.isAbsent, Value.isPresent, Text.allBlank, isBlank]
  have hdown : ({ engine := e, verifier := some down } : Session).validate.1 =
      .error (.verifierAfter "Presence verifier failed: down" (.unreachable "down")) := by
    have hjudged : e.judgement (some down) [] ("email", rule, [rule]) =
        .error (.verifierAfter "Presence verifier failed: down" (.unreachable "down")) :=
      (Engine.judgement_of_find? (v := .text "a@b.org") [] rfl happlies hfind
        (Nat.le_refl 1)).trans rfl
    have hfault := Engine.fault?_of_refused hjudged
    obtain ⟨-, -, -, hresult, -⟩ := validate_new hbuilt (some down)
    exact (hresult _).mpr ((Engine.firstFault?_cons [] _ []).trans (by rw [hfault]; rfl))
  have hfree : ∃ o, ({ engine := e, verifier := some free } : Session).validate.1 = .ok o ∧
      o.passed = true := by
    have hjudged : e.judgement (some free) [] ("email", rule, [rule]) = .ok (some true) :=
      (Engine.judgement_of_find? (v := .text "a@b.org") [] rfl happlies hfind
        (Nat.le_refl 1)).trans rfl
    obtain ⟨hno, hnot⟩ := Engine.no_fault_of_satisfied hjudged
    have hnoFault : e.firstFault? (some free) [] (Engine.pairs e.rules) = none :=
      (Engine.firstFault?_cons [] _ []).trans (by rw [hno]; rfl)
    have hnoFailure : e.failing (some free) [] (Engine.pairs e.rules) = [] :=
      (Engine.failing_cons [] _ []).trans (by rw [hnot]; rfl)
    obtain ⟨-, -, -, hfault, houtcome, -⟩ := validate_new hbuilt (some free)
    cases hresult : ({ engine := e, verifier := some free } : Session).validate.1 with
    | error fault =>
      have hsome := (hfault fault).mp hresult
      rw [hnoFault] at hsome
      cases hsome
    | ok o =>
      obtain ⟨hfailures, -, -, hpassed⟩ := houtcome o hresult
      rw [hnoFailure] at hfailures
      exact ⟨o, rfl, hpassed.mpr hfailures⟩
  obtain ⟨o, hresult, hpassed⟩ := hfree
  have hasked : (start.after retry).session.asked = [] := by
    rw [show retry = [.observe .passes] ++ [.setVerifier free] from rfl, after_concat]
    rfl
  obtain ⟨-, -, hfirst, -⟩ := observe_run hbuilt (some down) []
  obtain ⟨-, hopen, hsecond, -⟩ := observe_run hbuilt (some down) retry
  obtain ⟨-, -, -, hlast⟩ := observe_run hbuilt (some down) (retry ++ [.observe .passes])
  rw [hasked] at hsecond
  have hfaulted : (start.step (.observe .passes)).1 = _ :=
    (hfirst rfl .passes).1.trans (congrArg View.passes.answer hdown)
  have hnone : (start.after retry).session.outcome = none := by
    refine hopen.mpr fun first view rest heq => ?_
    cases first with
    | nil =>
      obtain ⟨hview, -⟩ := List.cons.inj heq
      cases hview
      exact ⟨_, hfaulted⟩
    | cons _ more =>
      cases more with
      | nil => simp [retry] at heq
      | cons _ _ => simp [retry] at heq
  obtain ⟨hanswer, hleft, -⟩ := hsecond hnone .passes
  have hkept : (start.after (retry ++ [.observe .passes])).session.outcome = some o := by
    rw [after_concat, hleft]
    exact congrArg Except.toOption hresult
  refine ⟨hbuilt, hfaulted, ?_, ?_⟩
  · rw [← hpassed]
    exact hanswer.trans (congrArg View.passes.answer hresult)
  · rw [← hpassed]
    exact (hlast o hkept change .passes).2.1

end Caller

end PayloadCheck.Check
