import PayloadCheck.Rule.RuleSet

/-!
# Building rule sets step by step

A builder collects rules, messages and shown names. Each step adds to what is there or, where its
rule has no name, changes nothing. A rule with parameters becomes a specification, so that its
parameters may hold commas and bars.
-/

namespace PayloadCheck.Rule

/-- A rule set in the making. Whether its rules fit is asked when the set is built. -/
structure Builder where
  name : String := "rules"
  rules : FieldMap (List Value) := []
  messages : FieldMap String := []
  names : FieldMap String := []

namespace Builder

/-- The texts of several parameters, in order. -/
def parameterTexts : List Value → Except Fault (List String)
  | [] => .ok []
  | v :: rest => do return (← v.plain) :: (← parameterTexts rest)

/-- A specification from a rule's name and parameters. -/
def specOf (rule : Value) (parameters : List Value) : Except Fault Spec := do
  let name := identifier (← rule.plain)
  let texts ← parameterTexts parameters
  if name.isEmpty then throw (.invalidModel 1 "RuleSpec")
  return ⟨name, texts⟩

/-- Appends a rule to those of a field. -/
def push (b : Builder) (field : String) (rule : Value) : Builder :=
  { b with rules := b.rules.alter field fun rules => rules.getD [] ++ [rule] }

/-- Adds a rule: as it stands, or with separate parameters. -/
def rule (b : Builder) (field : String) (rule : Value) (parameters : List Value) :
    Except Fault Builder :=
  if parameters.isEmpty then .ok (b.push field rule)
  else do return b.push field (.spec (← specOf rule parameters))

/-- Asks for a value. -/
def required (b : Builder) (field : String) : Builder := b.push field (.text "required")

/-- Whether a bound is given. -/
def isBound : Value → Bool
  | .null => false
  | _ => true

/-- Adds bounds: `between`, `min` or `max`, as they are given, or nothing. -/
def between (b : Builder) (field : String) (least greatest : Value) : Except Fault Builder :=
  match isBound least, isBound greatest with
  | true, true => b.rule field (.text "between") [least, greatest]
  | true, false => b.rule field (.text "min") [least]
  | false, true => b.rule field (.text "max") [greatest]
  | false, false => .ok b

/-- Adds a pattern. -/
def regex (b : Builder) (field : String) (pattern : Value) : Except Fault Builder :=
  b.rule field (.text "regex") [pattern]

/-- Sets a message. -/
def message (b : Builder) (key text : String) : Builder :=
  { b with messages := b.messages.insert key text }

/-- Sets the name that messages show for a field. -/
def shownName (b : Builder) (field text : String) : Builder :=
  { b with names := b.names.insert field text }

/-- The rule set so far. -/
def build (b : Builder) : Except Fault RuleSet :=
  RuleSet.ofValues b.name (b.rules.map fun (field, rules) => (field, .list rules))
    (b.messages.map fun (k, s) => (k, .text s)) (b.names.map fun (k, s) => (k, .text s))

end Builder

end PayloadCheck.Rule
