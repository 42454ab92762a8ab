import PayloadCheck.Check.Builtin
import PayloadCheck.Check.Session
import PayloadCheck.Rule.RuleSet

/-!
# Rule sets applied to payloads

A rule set is applied to a payload by an engine of its rules, messages and shown names that runs
one pass.
-/

namespace PayloadCheck.Rule.RuleSet

open PayloadCheck.Check PayloadCheck.Presence PayloadCheck.Time

/-- What the engine of a rule set is built from. -/
def setup (s : RuleSet) (payload : FieldMap Value) (now : Moment) : Setup where
  payload
  rules := s.declared
  messages := s.messages
  names := s.names
  name := s.name
  catalogue := builtin
  now

/-- Builds the engine of a rule set and runs one pass. The journal holds also what happened while
the engine was built. -/
def apply (s : RuleSet) (payload : FieldMap Value) (verifier : Option Verifier) (now : Moment) :
    Except Fault Outcome × Journal :=
  match (s.setup payload now).build with
  | (.error fault, events) => (.error fault, { events })
  | (.ok engine, events) =>
    let (result, journal) := engine.run verifier []
    (result, { journal with events := events ++ journal.events })

end PayloadCheck.Rule.RuleSet
