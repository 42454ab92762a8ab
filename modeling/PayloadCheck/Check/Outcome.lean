import PayloadCheck.Check.Message
import PayloadCheck.Value.Fit

/-!
# Outcomes

The record of one pass: the failures in the order in which they came, and the message of each.
-/

namespace PayloadCheck.Check

open PayloadCheck.Rule

/-- A rule that failed for a field, with the parameters that it had. -/
structure Failure where
  field : String
  rule : String
  parameters : List String
deriving DecidableEq, Repr, Inhabited

/-- Failures and messages so far; the lists have one entry each per failure. -/
structure Record where
  failures : List Failure := []
  messages : List (String × String) := []
deriving DecidableEq, Repr, Inhabited

/-- Adds a failure. Its message is looked up first, so that a missing message leaves no trace. -/
def Record.add (r : Record) (m : Messages) (field : String) (rule : Spec) :
    Except Fault Record := do
  let text ← m.resolve field rule
  return { failures := r.failures ++ [⟨field, rule.name, rule.parameters⟩]
           messages := r.messages ++ [(field, text)] }

/-- A failure to be recorded: a rule of a field, and the messages among which its own is sought. -/
structure Addition where
  messages : Messages
  field : String
  rule : Spec

/-- The failure that an addition puts into a record. -/
def Addition.failure (a : Addition) : Failure := ⟨a.field, a.rule.name, a.rule.parameters⟩

/-- Adds a failure to the two lists of a record, one after the other. Whatever is in them when a fault
ends the addition stays there. -/
def Addition.perform (a : Addition) : ExceptT Fault (StateM Record) Failure := do
  let text ← ofExcept (a.messages.resolve a.field a.rule)
  modify fun r => { r with failures := r.failures ++ [a.failure] }
  modify fun r => { r with messages := r.messages ++ [(a.field, text)] }
  return a.failure

/-- The outcome of a pass. -/
structure Outcome where
  passed : Bool
  failures : List Failure
  messages : List (String × String)
deriving DecidableEq, Repr, Inhabited

/-- The outcome that a record amounts to: passed if there is no failure. -/
def Outcome.ofRecord (r : Record) : Outcome := ⟨r.failures.isEmpty, r.failures, r.messages⟩

namespace Outcome

/-- Messages by field, in the order of their fields' first failures. -/
def grouped (o : Outcome) : FieldMap (List String) :=
  o.messages.foldl (fun m (field, text) => m.alter field fun texts => texts.getD [] ++ [text]) []

/-- The failed rules of each field with the parameters of their last failures. -/
def failedRules (o : Outcome) : FieldMap (FieldMap (List String)) :=
  o.failures.foldl
    (fun m f => m.alter f.field fun rules => (rules.getD []).insert f.rule f.parameters) []

/-- An outcome of the given fields; failures that come with a passed outcome do not fit. -/
def ofFields (fields : FieldMap Value) (failures : List Failure) : Fit Outcome :=
  let passed := Value.required fields "passed" Value.fitBool
  let consistent : Fit Unit := match passed with
    | .fits true => if failures.isEmpty then .fits () else .misfits 1
    | _ => .fits ()
  let messages := Value.withDefault fields "messages" []
    (Value.fitItems (Value.fitEntries Value.fitText))
  (passed.both (consistent.both messages)).map
    fun (passed, _, messages) => ⟨passed, failures, messages.flatten⟩

end Outcome

/-- A failure of the given fields. -/
def Failure.ofFields (fields : FieldMap Value) : Fit Failure :=
  ((Value.required fields "attribute" Value.fitText).both
    ((Value.required fields "rule" Value.fitText).both
      (Value.withDefault fields "parameters" [] (Value.fitItems Value.fitText)))).map
        fun (field, rule, parameters) => ⟨field, rule, parameters⟩

end PayloadCheck.Check
