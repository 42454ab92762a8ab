import PayloadCheck.Check.Pass
import PayloadCheck.Text.Quoted

/-!
# Sessions

A session is an engine in use: it has a verifier, which can be changed, and it keeps the outcome
of the first pass that is completed. A pass that ends with a fault leaves no outcome behind. Several
sessions may be in use side by side.
-/

namespace PayloadCheck.Check

open PayloadCheck.Presence PayloadCheck.Report PayloadCheck.Text PayloadCheck.Rule PayloadCheck.Time

/-- An engine in use. `asked` lists what the present verifier was asked. -/
structure Session where
  engine : Engine
  verifier : Option Verifier := none
  asked : List Query := []
  outcome : Option Outcome := none

namespace Session

/-- The outcome: the one that is kept, or that of a pass which is run now. -/
def validate (s : Session) : Except Fault Outcome × Session × List Event :=
  match s.outcome with
  | some o => (.ok o, s, [])
  | none =>
    let (result, j) := s.engine.run s.verifier s.asked
    (result, { s with asked := j.asked, outcome := result.toOption }, j.events)

/-- Changes the verifier, or takes it away. -/
def setVerifier (s : Session) (verifier : Option Verifier) : Session :=
  { s with verifier, asked := [] }

/-- The text that shows the engine: its name and its fields. -/
def shown (s : Session) : String :=
  let fields := joinTexts ", " (s.engine.rules.keys.map quoted)
  s!"Validator(name={quoted s.engine.name}, attributes=[{fields}])"

end Session

/-! ## Several sessions -/

/-- What is asked for where several sessions are in use. A session is named by its place, counted
from the first one that was built; a pass is run at a time. -/
inductive Request where
  | build (setup : Setup) (verifier : Option Verifier)
  | validate (place : Nat) (now : Moment)
  | setVerifier (place : Nat) (verifier : Option Verifier)

/-- The sessions in use, in the order in which they were built. -/
abbrev Sessions := List Session

namespace Sessions

/-- Does what is asked for, with the outcome if there is one. A construction that fails leaves no
session behind. -/
def step (ss : Sessions) : Request → Except Fault (Option Outcome) × Sessions × List Event
  | .build setup verifier =>
    match setup.build with
    | (.ok engine, events) => (.ok none, ss ++ [{ engine, verifier }], events)
    | (.error fault, events) => (.error fault, ss, events)
  | .validate place now =>
    match ss[place]? with
    | none => (.ok none, ss, [])
    | some s =>
      let (result, s, events) := { s with engine.now := now }.validate
      (some <$> result, ss.set place s, events)
  | .setVerifier place verifier =>
    match ss[place]? with
    | none => (.ok none, ss, [])
    | some s => (.ok none, ss.set place (s.setVerifier verifier), [])

section

variable {ss : Sessions} {setup : Setup} {verifier : Option Verifier} {place : Nat}

theorem step_build_of_ok {engine : Engine} {events : List Event}
    (h : setup.build = (.ok engine, events)) :
    ss.step (.build setup verifier) =
      (.ok none, ss ++ [{ engine := engine, verifier := verifier }], events) := by
  simp only [step, h]

theorem step_build_of_error {fault : Fault} {events : List Event}
    (h : setup.build = (.error fault, events)) :
    ss.step (.build setup verifier) = (.error fault, ss, events) := by
  simp only [step, h]

theorem step_validate_of_none (h : ss[place]? = none) (now : Moment) :
    ss.step (.validate place now) = (.ok none, ss, []) := by
  simp only [step, h]

theorem step_validate_of_some {s : Session} (h : ss[place]? = some s) (now : Moment) :
    ss.step (.validate place now) =
      let (result, s, events) := { s with engine.now := now }.validate
      (some <$> result, ss.set place s, events) := by
  simp only [step, h]

theorem step_setVerifier_of_none (h : ss[place]? = none) :
    ss.step (.setVerifier place verifier) = (.ok none, ss, []) := by
  simp only [step, h]

theorem step_setVerifier_of_some {s : Session} (h : ss[place]? = some s) :
    ss.step (.setVerifier place verifier) =
      (.ok none, ss.set place (s.setVerifier verifier), []) := by
  simp only [step, h]

end

/-- Does one thing after another, whatever comes of each. -/
def stepAll : List Request → Sessions → Sessions × List Event
  | [], ss => (ss, [])
  | request :: rest, ss =>
    let (_, ss, events) := ss.step request
    let (ss, more) := stepAll rest ss
    (ss, events ++ more)

end Sessions

end PayloadCheck.Check
