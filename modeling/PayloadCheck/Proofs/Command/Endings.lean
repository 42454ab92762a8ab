import PayloadCheck.Command.Run
import PayloadCheck.Proofs.Command.Loading
import PayloadCheck.Proofs.Folder
import PayloadCheck.Proofs.Presence.Pool

/-!
# How a check ends

A check loads a rule set and a payload, opens a pool if it is asked to, and runs a pass. It is
completed, or one of these stages raises a fault (`attempt_cases`). The exit code tells which of
them it was: 0 and 1 are the outcomes of a completed check, 3 is a fault of the store, which only
opening the pool and the pass can raise, and 2 any other fault that is handled. Whatever happens,
the pool is closed in the end. Main statement: `check_ending`.
-/

namespace PayloadCheck.Command

open PayloadCheck.Check PayloadCheck.Presence PayloadCheck.Report PayloadCheck.Rule

/-! ## Stages -/

/-- The stages of a check. -/
inductive Stage where
  | rules
  | payload
  | settings
  | opening
  | pass
deriving DecidableEq, Repr

section

variable (w : Surroundings) (env : Environment) (o : CheckOptions)

/-- The store that a check asks, if there is one. -/
def storeOf : Option Verifier :=
  if o.withDatabase then some (w.database.verifier o.database.schema) else none

/-- The pool that a check has tried to open. -/
def triedPool (settings : Settings) : Pool := (({ settings } : Pool).open_ w.server).2.1

/-- The rule set and the payload that a check has loaded. -/
structure Loaded (s : RuleSet) (payload : FieldMap Value) : Prop where
  rules : ∃ loaded, loadRules w o = .ok (s, loaded)
  payload : readPayload w.folder w.input o.data = .ok payload

/-- A check with a pool has opened it. -/
def Connected : Prop := o.withDatabase = true →
  ∃ settings, Settings.ofGiven (givenSettings o.database) env = .ok settings ∧
    (({ settings } : Pool).open_ w.server).1 = .ok ()

/-- A stage raises a fault, after those before it have succeeded. -/
inductive Raised : Stage → Fault → Prop
  | rules {fault : Fault} (raises : loadRules w o = .error fault) : Raised .rules fault
  | payload {s : RuleSet} {loaded : Event} {fault : Fault} (rules : loadRules w o = .ok (s, loaded))
      (raises : readPayload w.folder w.input o.data = .error fault) : Raised .payload fault
  | settings {s : RuleSet} {payload : FieldMap Value} {fault : Fault} (loaded : Loaded w o s payload)
      (asked : o.withDatabase = true)
      (raises : Settings.ofGiven (givenSettings o.database) env = .error fault) :
      Raised .settings fault
  | opening {s : RuleSet} {payload : FieldMap Value} {settings : Settings} {cause : Fault}
      (loaded : Loaded w o s payload) (asked : o.withDatabase = true)
      (given : Settings.ofGiven (givenSettings o.database) env = .ok settings)
      (raises : (({ settings } : Pool).open_ w.server).1 = .error cause) :
      Raised .opening (cannotConnect cause)
  | pass {s : RuleSet} {payload : FieldMap Value} {fault : Fault} (loaded : Loaded w o s payload)
      (connected : Connected w env o)
      (raises : (s.apply payload (storeOf w o) w.now).1 = .error fault) : Raised .pass fault

/-- All stages of a check succeed, and its pass has an outcome. -/
structure Completed (s : RuleSet) (outcome : Outcome) : Prop where
  applied : ∃ payload, Loaded w o s payload ∧
    (s.apply payload (storeOf w o) w.now).1 = .ok outcome
  connected : Connected w env o

end

variable {w : Surroundings} {env : Environment} {o : CheckOptions}

/-! ## An attempt -/

theorem attemptPlain_result (w : Surroundings) (s : RuleSet) (payload : FieldMap Value) :
    (attemptPlain w s payload).result =
      (s.apply payload none w.now).1.map fun outcome => (s.name, outcome) := rfl

theorem attemptOpened_result (w : Surroundings) (schema : Option String) (pool : Pool) (s : RuleSet)
    (payload : FieldMap Value) : (attemptOpened w schema pool s payload).result =
      (s.apply payload (some (w.database.verifier schema)) w.now).1.map
        fun outcome => (s.name, outcome) := rfl

theorem attemptOpened_pool (w : Surroundings) (schema : Option String) (pool : Pool) (s : RuleSet)
    (payload : FieldMap Value) :
    (attemptOpened w schema pool s payload).pool = some pool.close.1 := rfl

section

variable {s : RuleSet} {payload : FieldMap Value} {settings : Settings}

theorem attemptStored_of_settings_error {fault : Fault}
    (h : Settings.ofGiven (givenSettings o.database) env = .error fault) :
    attemptStored w env o.database s payload = { result := .error fault } := by
  simp only [attemptStored, h]

theorem attemptStored_of_open_error
    (h : Settings.ofGiven (givenSettings o.database) env = .ok settings) {cause : Fault}
    {pool : Pool} {events : List Event}
    (hopen : ({ settings } : Pool).open_ w.server = (.error cause, pool, events)) :
    attemptStored w env o.database s payload =
      { result := .error (cannotConnect cause), events, pool := some pool } := by
  simp only [attemptStored, h, hopen]

theorem attemptStored_of_open
    (h : Settings.ofGiven (givenSettings o.database) env = .ok settings) {pool : Pool}
    {events : List Event} (hopen : ({ settings } : Pool).open_ w.server = (.ok (), pool, events)) :
    attemptStored w env o.database s payload =
      let a := attemptOpened w o.database.schema pool s payload
      { a with events := events ++ a.events } := by
  simp only [attemptStored, h, hopen]

end

/-- What a check comes to once all but the pass is done. -/
theorem cases_of_applied {a : Attempt} {s : RuleSet} {payload : FieldMap Value}
    (loaded : Loaded w o s payload) (connected : Connected w env o)
    (h : a.result = (s.apply payload (storeOf w o) w.now).1.map fun outcome => (s.name, outcome)) :
    (∃ s outcome, Completed w env o s outcome ∧ a.result = .ok (s.name, outcome)) ∨
    ∃ stage fault, Raised w env o stage fault ∧ a.result = .error fault := by
  cases hresult : (s.apply payload (storeOf w o) w.now).1 with
  | ok outcome =>
    left
    refine ⟨s, outcome, ⟨⟨payload, loaded, hresult⟩, connected⟩, ?_⟩
    rw [h, hresult]
    rfl
  | error fault =>
    right
    refine ⟨.pass, fault, .pass loaded connected hresult, ?_⟩
    rw [h, hresult]
    rfl

theorem attemptStored_cases {s : RuleSet} {payload : FieldMap Value} (loaded : Loaded w o s payload)
    (asked : o.withDatabase = true) :
    (∃ t outcome, Completed w env o t outcome ∧
      (attemptStored w env o.database s payload).result = .ok (t.name, outcome)) ∨
    ∃ stage fault, Raised w env o stage fault ∧
      (attemptStored w env o.database s payload).result = .error fault := by
  cases hgiven : Settings.ofGiven (givenSettings o.database) env with
  | error fault =>
    right
    exact ⟨.settings, fault, .settings loaded asked hgiven,
      by rw [attemptStored_of_settings_error hgiven]⟩
  | ok settings =>
    rcases hopen : ({ settings } : Pool).open_ w.server with ⟨cause | done, pool, events⟩
    · right
      exact ⟨.opening, cannotConnect cause, .opening loaded asked hgiven (by rw [hopen]),
        by rw [attemptStored_of_open_error hgiven hopen]⟩
    · have connected : Connected w env o := fun _ => ⟨settings, hgiven, by rw [hopen]⟩
      refine cases_of_applied loaded connected ?_
      rw [attemptStored_of_open hgiven hopen, storeOf, asked]
      exact attemptOpened_result w o.database.schema pool s payload

/-- What comes after loading: a pass with a store, or one without. -/
def applied (w : Surroundings) (env : Environment) (o : CheckOptions) (s : RuleSet)
    (payload : FieldMap Value) : Attempt :=
  if o.withDatabase then attemptStored w env o.database s payload else attemptPlain w s payload

theorem attempt_of_loaded (env : Environment) {s : RuleSet} {payload : FieldMap Value}
    (loaded : Loaded w o s payload) : ∃ event, attempt w env o =
      let a := applied w env o s payload
      { a with events := event :: a.events } := by
  obtain ⟨event, hrules⟩ := loaded.rules
  refine ⟨event, ?_⟩
  simp only [attempt, loadBoth, hrules, loaded.payload]
  rfl

/-- The rule set and the payload are loaded, or the check ends with a fault before it needs a
pool. -/
theorem loaded_cases (w : Surroundings) (env : Environment) (o : CheckOptions) :
    (∃ s payload, Loaded w o s payload) ∨
    ∃ stage fault, Raised w env o stage fault ∧ (attempt w env o).result = .error fault ∧
      (attempt w env o).pool = none := by
  unfold attempt loadBoth
  cases hrules : loadRules w o with
  | error fault =>
    right
    exact ⟨.rules, fault, .rules hrules, rfl, rfl⟩
  | ok found =>
    obtain ⟨s, loaded⟩ := found
    cases hpayload : readPayload w.folder w.input o.data with
    | error fault =>
      right
      exact ⟨.payload, fault, .payload hrules hpayload, rfl, rfl⟩
    | ok payload =>
      left
      exact ⟨s, payload, ⟨loaded, hrules⟩, hpayload⟩

theorem attempt_cases (w : Surroundings) (env : Environment) (o : CheckOptions) :
    (∃ s outcome, Completed w env o s outcome ∧
      (attempt w env o).result = .ok (s.name, outcome)) ∨
    ∃ stage fault, Raised w env o stage fault ∧ (attempt w env o).result = .error fault := by
  rcases loaded_cases w env o with ⟨s, payload, hloaded⟩ | ⟨stage, fault, hraised, hresult, -⟩
  · obtain ⟨event, hattempt⟩ := attempt_of_loaded env hloaded
    rw [hattempt]
    cases hasked : o.withDatabase with
    | true =>
      have happlied : applied w env o s payload = attemptStored w env o.database s payload :=
        if_pos hasked
      rw [happlied]
      exact attemptStored_cases hloaded hasked
    | false =>
      have connected : Connected w env o := by
        intro hstore
        simp [hasked] at hstore
      refine cases_of_applied hloaded connected ?_
      simp [applied, attemptPlain_result, storeOf, hasked]
  · right
    exact ⟨stage, fault, hraised, hresult⟩

/-! ## The pool -/

/-- A pool that is closed, with all its groups. -/
def AllClosed (pool : Pool) : Prop := pool.isOpen = false ∧ unclosed pool.acts = []

theorem allClosed_of_closed {pool : Pool} (htidy : pool.Tidy) (h : pool.current = none) :
    AllClosed pool := by
  refine ⟨Pool.isOpen_eq_false_iff.mpr h, ?_⟩
  rw [htidy.unclosed_eq, h]
  rfl

theorem allClosed_close {pool : Pool} (htidy : pool.Tidy) : AllClosed pool.close.1 :=
  allClosed_of_closed htidy.close (Pool.close_current pool)

theorem current_of_open_error {settings : Settings} {cause : Fault}
    (h : (({ settings } : Pool).open_ w.server).1 = .error cause) :
    (triedPool w settings).current = none := by
  have hopening : Pool.Opening w.server 3 Pool.usualDelay { settings }
      (({ settings } : Pool).open_ w.server).1 (triedPool w settings) :=
    Pool.opening_of_closed rfl (by decide)
  exact Pool.isOpen_eq_false_iff.mp (hopening.of_error cause h).2

theorem attemptStored_pool {s : RuleSet} {payload : FieldMap Value} {settings : Settings}
    (hgiven : Settings.ofGiven (givenSettings o.database) env = .ok settings) :
    (attemptStored w env o.database s payload).pool = some (triedPool w settings).close.1 := by
  rcases hopen : ({ settings } : Pool).open_ w.server with ⟨cause | done, pool, events⟩
  · have hclosed : (triedPool w settings).current = none := current_of_open_error (by rw [hopen])
    rw [Pool.close_of_closed hclosed, attemptStored_of_open_error hgiven hopen, triedPool, hopen]
  · rw [attemptStored_of_open hgiven hopen, triedPool, hopen]
    exact attemptOpened_pool w o.database.schema pool s payload

theorem attempt_pool {s : RuleSet} {payload : FieldMap Value} (loaded : Loaded w o s payload)
    (asked : o.withDatabase = true) {settings : Settings}
    (hgiven : Settings.ofGiven (givenSettings o.database) env = .ok settings) :
    (attempt w env o).pool = some (triedPool w settings).close.1 := by
  obtain ⟨event, hattempt⟩ := attempt_of_loaded env loaded
  rw [hattempt, applied, if_pos asked]
  exact attemptStored_pool hgiven

/-- The pool of a check is made once the rule set, the payload and the settings are there, and not
before; it is left closed. -/
theorem attempt_pool_cases (w : Surroundings) (env : Environment) (o : CheckOptions) :
    (attempt w env o).pool = none ∨
    ∃ settings, (attempt w env o).pool = some (triedPool w settings).close.1 := by
  rcases loaded_cases w env o with ⟨s, payload, hloaded⟩ | ⟨-, -, -, -, hpool⟩
  · obtain ⟨event, hattempt⟩ := attempt_of_loaded env hloaded
    cases hasked : o.withDatabase with
    | false =>
      left
      simp [hattempt, applied, hasked, attemptPlain]
    | true =>
      cases hgiven : Settings.ofGiven (givenSettings o.database) env with
      | error fault =>
        left
        rw [hattempt, applied, if_pos hasked, attemptStored_of_settings_error hgiven]
      | ok settings =>
        right
        exact ⟨settings, attempt_pool hloaded hasked hgiven⟩
  · exact Or.inl hpool

/-! ## Exit codes -/

/-- Before a store is asked, no stage raises a fault of the store. -/
theorem stage_of_verifier_fault {stage : Stage} {fault : Fault} (h : Raised w env o stage fault)
    (hstore : fault.isVerifier = true) : stage = .opening ∨ stage = .pass := by
  have habsurd : ∀ {α : Type} {step : Except Fault α}, Raises NotOfStore step →
      step = .error fault → stage = .opening ∨ stage = .pass := by
    intro α step hraises herror
    have hnot := hraises fault herror
    unfold NotOfStore at hnot
    simp [hnot] at hstore
  cases h with
  | rules raises =>
    exact habsurd ((raises_safePath _ _).notOfStore.bind fun path => raises_load _ path) raises
  | payload rules raises => exact habsurd (raises_readPayload _ _ _) raises
  | settings loaded asked raises => exact habsurd (raises_ofGiven _ _).notOfStore raises
  | opening => exact Or.inl rfl
  | pass => exact Or.inr rfl

/-- What is handled of a fault, by its kind. -/
theorem complaint?_cases (fault : Fault) :
    (fault.isVerifier = true ∧ ∃ text, complaint? fault = some (3, text)) ∨
    (fault.isVerifier = false ∧ (fault.isConfiguration = true ∨ isBadInput fault = true) ∧
      ∃ text, complaint? fault = some (2, text)) ∨
    (fault.isVerifier = false ∧ fault.isConfiguration = false ∧ isBadInput fault = false ∧
      complaint? fault = none) := by
  unfold complaint?
  cases hstore : fault.isVerifier with
  | true => exact Or.inl ⟨rfl, _, rfl⟩
  | false =>
    cases hconfiguration : fault.isConfiguration with
    | true => exact Or.inr (Or.inl ⟨rfl, Or.inl rfl, _, rfl⟩)
    | false =>
      cases hinput : isBadInput fault with
      | true => exact Or.inr (Or.inl ⟨rfl, Or.inr rfl, _, rfl⟩)
      | false => exact Or.inr (Or.inr ⟨rfl, rfl, rfl, rfl⟩)

theorem finish_of_complaint {a : Attempt} {fault : Fault} {code : Nat} {text : String}
    (ha : a.result = .error fault) (h : complaint? fault = some (code, text)) :
    finish w o a =
      { ending := .ok code, complaints := [text], events := a.events ++ [.commandFailed text]
        folder := w.folder, pool := a.pool, statements := a.statements } := by
  simp only [finish, ha, h]

theorem finish_of_unhandled {a : Attempt} {fault : Fault} (ha : a.result = .error fault)
    (h : complaint? fault = none) :
    finish w o a =
      { ending := .error fault, events := a.events, folder := w.folder, pool := a.pool
        statements := a.statements } := by
  simp only [finish, ha, h]

theorem finish_of_outcome {a : Attempt} {name : String} {outcome : Outcome}
    (ha : a.result = .ok (name, outcome)) :
    (∃ folder, writeMetrics w.folder o.metricsFile a.events = .ok folder ∧ finish w o a =
      { ending := .ok (exitCode outcome), output := outcomeText name outcome o.form ++ "\n"
        events := a.events, folder, pool := a.pool, statements := a.statements }) ∨
    ∃ fault, (finish w o a).ending = .error fault ∧ (finish w o a).pool = a.pool := by
  cases hwritten : writeMetrics w.folder o.metricsFile a.events with
  | ok folder =>
    left
    exact ⟨folder, rfl, by simp only [finish, ha, hwritten]⟩
  | error fault =>
    right
    exact ⟨fault, by simp only [finish, ha, hwritten], by simp only [finish, ha, hwritten]⟩

theorem finish_pool (w : Surroundings) (o : CheckOptions) (a : Attempt) :
    (finish w o a).pool = a.pool := by
  cases ha : a.result with
  | error fault =>
    rcases complaint?_cases fault with ⟨-, text, h⟩ | ⟨-, -, text, h⟩ | ⟨-, -, -, h⟩
    · rw [finish_of_complaint ha h]
    · rw [finish_of_complaint ha h]
    · rw [finish_of_unhandled ha h]
  | ok found =>
    obtain ⟨name, outcome⟩ := found
    rcases finish_of_outcome (w := w) (o := o) ha with ⟨folder, -, h⟩ | ⟨fault, -, h⟩
    · rw [h]
    · exact h

/-- Metrics that are asked for are found in their file. -/
theorem textAt?_of_writeMetrics {folder after : Folder} {file : Option String} {events : List Event}
    (h : writeMetrics folder file events = .ok after) {path : String} (hfile : file = some path)
    (hpath : path ≠ "") :
    after.textAt? (Location.ofPath path).text = .ok (some (Metrics.ofEvents events).text) := by
  subst hfile
  have hgiven : path.isEmpty = false := by simpa using hpath
  simp only [writeMetrics, hgiven, Bool.false_eq_true, if_false] at h
  exact Folder.textAt?_of_write h

theorem exitCode_le_one (outcome : Outcome) : exitCode outcome ≤ 1 := by
  unfold exitCode
  split <;> omega

theorem exitCode_eq_zero_iff (outcome : Outcome) : exitCode outcome = 0 ↔ outcome.passed = true := by
  unfold exitCode
  split <;> simp_all

/-- What an exit code of 0 or 1 tells: all stages succeeded, the outcome of the pass is the one that
is written, and so are the metrics if they are asked for. -/
structure Succeeds (w : Surroundings) (o : CheckOptions) (r : Run) (code : Nat) : Prop where
  completed : ∃ env s outcome, completeEnvironment w o.envFile = .ok env ∧
    Completed w env o s outcome ∧ (code = 0 ↔ outcome.passed = true) ∧
    r.output = outcomeText s.name outcome o.form ++ "\n"
  metrics : ∀ path, o.metricsFile = some path → path ≠ "" →
    r.folder.textAt? (Location.ofPath path).text = .ok (some (Metrics.ofEvents r.events).text)

/-- What any other exit code tells: a stage raised a fault of some kind, and nothing is written. -/
structure Fails (w : Surroundings) (o : CheckOptions) (r : Run) (kind : Stage → Fault → Prop) :
    Prop where
  raised : ∃ env stage fault, completeEnvironment w o.envFile = .ok env ∧
    Raised w env o stage fault ∧ kind stage fault
  silent : r.output = ""
  untouched : r.folder = w.folder

/-- How a check ends that returns an exit code. -/
theorem check_ending_cases {code : Nat} (h : (check w o).ending = .ok code) :
    (code ≤ 1 ∧ Succeeds w o (check w o) code) ∨
    (code = 2 ∧ Fails w o (check w o) fun _ fault => fault.isVerifier = false ∧
      (fault.isConfiguration = true ∨ isBadInput fault = true)) ∨
    (code = 3 ∧ Fails w o (check w o) fun stage fault => fault.isVerifier = true ∧
      (stage = .opening ∨ stage = .pass)) := by
  cases henv : completeEnvironment w o.envFile with
  | error fault =>
    simp only [check, henv] at h
    cases h
  | ok env =>
    have hcheck : check w o = finish w o (attempt w env o) := by simp only [check, henv]
    rw [hcheck] at h ⊢
    rcases attempt_cases w env o with ⟨s, outcome, hcompleted, ha⟩ | ⟨stage, fault, hraised, ha⟩
    · left
      rcases finish_of_outcome (w := w) (o := o) ha with
        ⟨folder, hwritten, hfinish⟩ | ⟨fault, hend, -⟩
      · rw [hfinish] at h ⊢
        obtain rfl := Except.ok.inj h
        refine ⟨exitCode_le_one outcome, ⟨⟨env, s, outcome, henv, hcompleted,
          exitCode_eq_zero_iff outcome, rfl⟩, ?_⟩⟩
        intro path hfile hpath
        exact textAt?_of_writeMetrics hwritten hfile hpath
      · rw [hend] at h
        cases h
    · right
      rcases complaint?_cases fault with
        ⟨hstore, text, hcode⟩ | ⟨hstore, hkind, text, hcode⟩ | ⟨-, -, -, hnone⟩
      · right
        rw [finish_of_complaint ha hcode] at h ⊢
        obtain rfl := Except.ok.inj h
        exact ⟨rfl, ⟨env, stage, fault, henv, hraised, hstore,
          stage_of_verifier_fault hraised hstore⟩, rfl, rfl⟩
      · left
        rw [finish_of_complaint ha hcode] at h ⊢
        obtain rfl := Except.ok.inj h
        exact ⟨rfl, ⟨env, stage, fault, henv, hraised, hstore, hkind⟩, rfl, rfl⟩
      · rw [finish_of_unhandled ha hnone] at h
        cases h

/-- The pool of a check is closed in the end, however the check ends. -/
theorem check_pool_allClosed {pool : Pool} (h : (check w o).pool = some pool) : AllClosed pool := by
  cases henv : completeEnvironment w o.envFile with
  | error fault =>
    simp only [check, henv] at h
    cases h
  | ok env =>
    simp only [check, henv, finish_pool] at h
    rcases attempt_pool_cases w env o with hnone | ⟨settings, hpool⟩
    · rw [hnone] at h
      cases h
    · rw [hpool] at h
      obtain rfl := Option.some.inj h
      exact allClosed_close (Pool.Tidy.new settings).open_

/-- **How a check ends.** An exit code of 0 or 1 tells that all stages succeeded with an outcome that
    passed or failed; 3 that opening the pool or the pass raised a fault of the store; 2 that some
    stage raised a fault of the configuration or of the input that is none of the store. There are
    no other codes, and 2 and 3 leave nothing written. The pool, once it is made, is left with all
    its groups closed, also where a fault ends the check without a code. -/
theorem check_ending (w : Surroundings) (o : CheckOptions) :
    (∀ code, (check w o).ending = .ok code → code ≤ 3) ∧
    (∀ code, code ≤ 1 → (check w o).ending = .ok code → Succeeds w o (check w o) code) ∧
    ((check w o).ending = .ok 3 → Fails w o (check w o) fun stage fault =>
      fault.isVerifier = true ∧ (stage = .opening ∨ stage = .pass)) ∧
    ((check w o).ending = .ok 2 → Fails w o (check w o) fun _ fault =>
      fault.isVerifier = false ∧ (fault.isConfiguration = true ∨ isBadInput fault = true)) ∧
    (∀ env s payload settings, completeEnvironment w o.envFile = .ok env → Loaded w o s payload →
      o.withDatabase = true → Settings.ofGiven (givenSettings o.database) env = .ok settings →
      ∃ pool, (check w o).pool = some pool ∧ (triedPool w settings).acts <+: pool.acts) ∧
    ∀ pool, (check w o).pool = some pool → AllClosed pool := by
  refine ⟨?_, ?_, ?_, ?_, ?_, fun pool => check_pool_allClosed⟩
  · intro code h
    rcases check_ending_cases h with ⟨hcode, -⟩ | ⟨rfl, -⟩ | ⟨rfl, -⟩ <;> omega
  · intro code hcode h
    rcases check_ending_cases h with ⟨-, hsucceeds⟩ | ⟨rfl, -⟩ | ⟨rfl, -⟩
    · exact hsucceeds
    · omega
    · omega
  · intro h
    rcases check_ending_cases h with ⟨hcode, -⟩ | ⟨hcode, -⟩ | ⟨-, hfails⟩
    · omega
    · omega
    · exact hfails
  · intro h
    rcases check_ending_cases h with ⟨hcode, -⟩ | ⟨-, hfails⟩ | ⟨hcode, -⟩
    · omega
    · exact hfails
    · omega
  · intro env s payload settings henv loaded asked hgiven
    refine ⟨(triedPool w settings).close.1, ?_, ?_⟩
    · simp only [check, henv, finish_pool]
      exact attempt_pool loaded asked hgiven
    · unfold Pool.close
      cases (triedPool w settings).current with
      | none => exact List.prefix_refl _
      | some group => exact List.prefix_append _ _

end PayloadCheck.Command
