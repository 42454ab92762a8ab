import PayloadCheck.Check.Session

/-!
# Callers

A caller works with a session: it looks at the outcome from several sides and changes the verifier,
while time passes. The payload, the rules and the message texts that it brought along remain its
own, and it may change them. So may it the lists of messages that it is handed. Lists stay at their
places: whoever has the place of a list sees what others did to it. The session has the messages
of its outcome in such a list too, and hands out copies of that list, each at a place of its own.
-/

namespace PayloadCheck.Check

open PayloadCheck.Presence PayloadCheck.Report PayloadCheck.Rule PayloadCheck.Time

/-- The sides from which an outcome can be looked at. -/
inductive View where
  | whole
  | passes
  | fails
  | messages
  | failures
  | failedRules
  | grouped
  /-- Whether the pass succeeded, or else its messages. -/
  | summary
deriving DecidableEq, Repr

/-- What a caller gets back. -/
inductive Answer where
  | whole (o : Outcome)
  | truth (b : Bool)
  | messages (messages : List (String × String))
  | failures (failures : List Failure)
  | failedRules (rules : FieldMap (FieldMap (List String)))
  | grouped (texts : FieldMap (List String))
  | fault (fault : Fault)
  | done
deriving DecidableEq, Repr

namespace View

/-- An outcome looked at from a side. -/
def look : View → Outcome → Answer
  | whole, o => .whole o
  | passes, o => .truth o.passed
  | fails, o => .truth !o.passed
  | messages, o => .messages o.messages
  | failures, o => .failures o.failures
  | failedRules, o => .failedRules o.failedRules
  | grouped, o => .grouped o.grouped
  | summary, o => if o.passed then .truth true else .messages o.messages

/-- What a caller gets back that looks at the result of a pass. -/
def answer (view : View) : Except Fault Outcome → Answer
  | .ok o => view.look o
  | .error fault => .fault fault

/-- Whether a list of messages is handed out. -/
def handsOut : View → Outcome → Bool
  | messages, _ => true
  | summary, o => !o.passed
  | _, _ => false

end View

/-- What a caller does, or what happens to it. -/
inductive Operation where
  | observe (view : View)
  /-- Changes the verifier, or takes it away. -/
  | setVerifier (verifier : Option Verifier)
  /-- Adds a message to a list that was handed out, counted from the first one. -/
  | append (list : Nat) (message : String × String)
  | changePayload (payload : FieldMap Value)
  | changeRules (rules : Declared)
  | changeMessages (messages : FieldMap String)
  /-- Time passes. -/
  | wait (now : Moment)

/-- A caller with its session. `own` is what it brought along, as it is now; `lists` are all lists
of messages by their places, `kept` is the place of the outcome's, and `handed` are the places of
those that were handed out. -/
structure Caller where
  own : Setup
  session : Session
  lists : List (List (String × String)) := []
  kept : Nat := 0
  handed : List Nat := []
  log : List Event := []

namespace Caller

/-- A caller whose session is new. -/
def new (setup : Setup) (engine : Engine) (verifier : Option Verifier) : Caller :=
  { own := setup, session := { engine, verifier } }

/-- The session with the messages of its outcome as they stand in their list now. -/
def current (c : Caller) : Session :=
  { c.session with
    outcome := c.session.outcome.map fun o => { o with messages := (c.lists[c.kept]?).getD [] } }

/-- Puts the messages of a new outcome into a list. -/
def keep (c : Caller) (o : Outcome) : Caller :=
  { c with lists := c.lists ++ [o.messages], kept := c.lists.length }

/-- Hands out a copy of messages. -/
def hand (c : Caller) (messages : List (String × String)) : Caller :=
  { c with lists := c.lists ++ [messages], handed := c.handed ++ [c.lists.length] }

/-- Looks at the outcome; if none is kept, a pass is run for it. -/
def observe (c : Caller) (view : View) : Answer × Caller :=
  let (result, session, events) := c.current.validate
  let after := { c with session, log := c.log ++ events }
  match result with
  | .error _ => (view.answer result, after)
  | .ok o =>
    let after := if c.session.outcome.isSome then after else after.keep o
    (view.answer result, if view.handsOut o then after.hand o.messages else after)

/-- Adds a message to a list that was handed out. -/
def append (c : Caller) (list : Nat) (message : String × String) : Caller :=
  match c.handed[list]? with
  | some place => { c with lists := c.lists.modify place (· ++ [message]) }
  | none => c

/-- One operation. -/
def step (c : Caller) : Operation → Answer × Caller
  | .observe view => c.observe view
  | .setVerifier verifier => (.done, { c with session := c.session.setVerifier verifier })
  | .append list message => (.done, c.append list message)
  | .changePayload payload => (.done, { c with own := { c.own with payload } })
  | .changeRules rules => (.done, { c with own := { c.own with rules } })
  | .changeMessages messages => (.done, { c with own := { c.own with messages } })
  | .wait now => (.done, { c with session.engine.now := now })

/-- What operations leave behind, one after the other. -/
def after (c : Caller) : List Operation → Caller
  | [] => c
  | op :: ops => (c.step op).2.after ops

end Caller

end PayloadCheck.Check
