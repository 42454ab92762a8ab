import PayloadCheck.Check.Application
import PayloadCheck.Command.Payload
import PayloadCheck.Command.Result
import PayloadCheck.Environment.Assignments
import PayloadCheck.Presence.Database
import PayloadCheck.Presence.Pool
import PayloadCheck.Report.LogRecord
import PayloadCheck.Report.Metrics
import PayloadCheck.Rule.Loading

/-!
# Running a command

A run is a function of the command line and of what surrounds it. The exit code tells how it ended:
0 the payload passed, 1 it failed, 2 something is declared wrongly, 3 the store did not answer.
Faults of other kinds end the program without an exit code of its own. A pool that was opened is
closed on every way out.
-/

namespace PayloadCheck.Command

open PayloadCheck.Check PayloadCheck.Presence PayloadCheck.Report PayloadCheck.Rule
open PayloadCheck.Time

/-- What surrounds a run. -/
structure Surroundings where
  folder : Folder
  environment : Environment := []
  input : String := ""
  server : Server
  database : Database
  now : Moment

/-- What a run leaves behind. -/
structure Run where
  /-- The exit code, or the fault that nobody handled. -/
  ending : Except Fault Nat
  /-- What is written on the standard output. -/
  output : String := ""
  /-- The lines that complain. -/
  complaints : List String := []
  /-- What happened. -/
  events : List Event := []
  /-- The least grave level of the log. -/
  level : Level := .warning
  /-- The form of the log. -/
  form : LogForm := .object
  /-- The folder after the run. -/
  folder : Folder
  /-- The pool, if one was made. -/
  pool : Option Pool := none
  /-- The statements that the database carried out. -/
  statements : List Statement := []

/-! ## Checking a payload -/

/-- A check before anything of it is written. -/
structure Attempt where
  result : Except Fault (String × Outcome)
  events : List Event := []
  pool : Option Pool := none
  statements : List Statement := []

/-- The fault of a pool that cannot be opened. -/
def cannotConnect (fault : Fault) : Fault :=
  .verifierAfter s!"Cannot connect to the presence database: {fault.message}" fault

/-- The settings that a check asks for. -/
def givenSettings (o : DatabaseOptions) : GivenSettings where
  host := o.host
  port := o.port
  database := o.database
  user := o.user
  password := o.password

/-- Applies a rule set without a store. -/
def attemptPlain (w : Surroundings) (s : RuleSet) (payload : FieldMap Value) : Attempt :=
  let (result, journal) := s.apply payload none w.now
  { result := result.map fun o => (s.name, o), events := .checking s.name :: journal.events }

/-- Applies a rule set with an open pool, and closes the pool. -/
def attemptOpened (w : Surroundings) (schema : Option String) (pool : Pool) (s : RuleSet)
    (payload : FieldMap Value) : Attempt :=
  let (result, journal) := s.apply payload (some (w.database.verifier schema)) w.now
  let (closed, events) := pool.close
  { result := result.map fun o => (s.name, o)
    events := .checking s.name :: journal.events ++ events
    pool := some closed
    statements := statementsOf schema journal.asked }

/-- Applies a rule set with a pool that is opened for it. -/
def attemptStored (w : Surroundings) (env : Environment) (o : DatabaseOptions) (s : RuleSet)
    (payload : FieldMap Value) : Attempt :=
  match Settings.ofGiven (givenSettings o) env with
  | .error fault => { result := .error fault }
  | .ok settings =>
    match ({ settings } : Pool).open_ w.server with
    | (.error fault, pool, events) =>
      { result := .error (cannotConnect fault), events, pool := some pool }
    | (.ok (), pool, events) =>
      let a := attemptOpened w o.schema pool s payload
      { a with events := events ++ a.events }

/-- Loads the rule set. -/
def loadRules (w : Surroundings) (o : CheckOptions) : Except Fault (RuleSet × Event) := do
  RuleSet.load w.folder (← safePath (.text o.rules) "rules")

/-- Loads the rule set and the payload. -/
def loadBoth (w : Surroundings) (o : CheckOptions) :
    Except (Fault × List Event) (RuleSet × Event × FieldMap Value) :=
  match loadRules w o with
  | .error fault => .error (fault, [])
  | .ok (s, loaded) =>
    match readPayload w.folder w.input o.data with
    | .error fault => .error (fault, [loaded])
    | .ok payload => .ok (s, loaded, payload)

/-- Loads the rule set and the payload and applies the one to the other. -/
def attempt (w : Surroundings) (env : Environment) (o : CheckOptions) : Attempt :=
  match loadBoth w o with
  | .error (fault, events) => { result := .error fault, events }
  | .ok (s, loaded, payload) =>
    let a := if o.withDatabase then attemptStored w env o.database s payload
      else attemptPlain w s payload
    { a with events := loaded :: a.events }

/-! ## Exit codes -/

/-- Faults of what a caller hands in. -/
def isBadInput : Fault → Bool
  | .noFile _ | .badValue _ | .unsafeInput _ | .invalidModel .. => true
  | _ => false

/-- The exit code of a fault and the line that complains, if the fault is handled. -/
def complaint? (fault : Fault) : Option (Nat × String) :=
  if fault.isVerifier then some (3, s!"Presence verifier failed: {fault.message}")
  else if fault.isConfiguration || isBadInput fault then
    some (2, s!"Configuration error: {fault.message}")
  else none

/-- The exit code of an outcome. -/
def exitCode (o : Outcome) : Nat := if o.passed then 0 else 1

/-- Writes the metrics of a run into a file, if one is asked for. -/
def writeMetrics (folder : Folder) (path : Option String) (events : List Event) :
    Except Fault Folder :=
  match path with
  | some p =>
    if p.isEmpty then .ok folder
    else folder.write (Location.ofPath p).text (Metrics.ofEvents events).text
  | none => .ok folder

/-- Writes what came out of a check. -/
def finish (w : Surroundings) (o : CheckOptions) (a : Attempt) : Run :=
  let run : Run :=
    { ending := .ok 0, events := a.events, folder := w.folder, pool := a.pool
      statements := a.statements }
  match a.result with
  | .error fault =>
    match complaint? fault with
    | some (code, text) =>
      { run with
        ending := .ok code, complaints := [text]
        events := a.events ++ [.commandFailed text] }
    | none => { run with ending := .error fault }
  | .ok (name, outcome) =>
    let run := { run with output := outcomeText name outcome o.form ++ "\n" }
    match writeMetrics w.folder o.metricsFile a.events with
    | .ok folder => { run with ending := .ok (exitCode outcome), folder }
    | .error fault => { run with ending := .error fault }

/-- The environment, completed from a file of settings. A file that does not exist changes
nothing. -/
def completeEnvironment (w : Surroundings) (path : Option String) : Except Fault Environment :=
  match path with
  | none => .ok w.environment
  | some p =>
    if p.contains '\x00' then .ok w.environment
    else match w.folder.find p with
      | .ok (.file _ text) =>
        w.environment.load (String.ofList (unifyLineEnds text.toList))
      | _ => .ok w.environment

/-- Checks a payload. -/
def check (w : Surroundings) (o : CheckOptions) : Run :=
  match completeEnvironment w o.envFile with
  | .error fault => { ending := .error fault, folder := w.folder }
  | .ok env => finish w o (attempt w env o)

/-! ## Command lines -/

/-- Carries out a task. -/
def perform (w : Surroundings) : Task → Run
  | .check o => check w o
  | .listRules form => { ending := .ok 0, output := rulesText form ++ "\n", folder := w.folder }
  | .nothing => { ending := .ok 2, output := programHelp, folder := w.folder }

/-- The run of a command line that is not carried out. -/
def stopped (w : Surroundings) : Stop → Run
  | .usage program text =>
    { ending := .ok 2, complaints := [s!"{program}: error: {text}"], folder := w.folder }
  | .help text => { ending := .ok 0, output := text, folder := w.folder }
  | .fault fault => { ending := .error fault, folder := w.folder }

/-- Runs a command line. -/
def run (w : Surroundings) (words : List String) : Run :=
  match Invocation.ofWords words with
  | .error stop => stopped w stop
  | .ok i =>
    { perform w i.task with
      level := .chosen i.logLevel w.environment "WARNING", form := .ofName i.logForm }

end PayloadCheck.Command
