import PayloadCheck.Fault

/-!
# Events

What happens while rules are loaded, payloads are checked and the store is asked. Log records and
counters are both drawn from the events, each in its own way.
-/

namespace PayloadCheck.Report

/-- Why a rule is not run. -/
inductive Skip where
  | notSubmitted
  | valueMissing
deriving DecidableEq, Repr

/-- Where a fault of the configuration comes to light. -/
inductive Phase where
  | construction
  | pass
deriving DecidableEq, Repr

/-- Something that happened. -/
inductive Event where
  /-- It was decided whether a rule is run for a field. -/
  | considered (field rule : String) (skip : Option Skip)
  /-- A rule failed for a field, and its message was found. -/
  | failed (ruleSet rule : String)
  /-- A fault of the configuration ended a construction or a pass. -/
  | misconfigured (ruleSet : String) (phase : Phase) (fault : Fault)
  /-- A pass over the given number of fields was completed. -/
  | passEnded (ruleSet : String) (fields failures : Nat)
  /-- The store gave no answer that a rule can use. -/
  | storeFailed (detail : String)
  /-- The database counted records. -/
  | counted (table : String) (count : Int)
  /-- The database did not count records. -/
  | countFailed (table detail : String)
  /-- A rule set was loaded. -/
  | loaded (ruleSet : String) (fields : Nat)
  /-- A connection failed and is tried again. -/
  | connectFailed (try_ tries : Int) (detail : String)
  /-- A pool was opened. -/
  | poolOpened (pool host : String) (port : Int) (database : String) (size : Int)
  /-- A pool was closed. -/
  | poolClosed (pool : String)
  /-- A payload is about to be checked. -/
  | checking (ruleSet : String)
  /-- A command ends because of a fault. -/
  | commandFailed (text : String)
deriving DecidableEq, Repr

end PayloadCheck.Report
