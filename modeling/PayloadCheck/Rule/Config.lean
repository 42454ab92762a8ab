import PayloadCheck.Rule.Builder

/-!
# Configurations of rule sets

A configuration is a map with the rules under `rules` and, where wanted, a `name`, `messages` and
shown names under `attributes`. The rules of a field are a text of tokens, or a list whose items
are tokens or maps with a `rule` and its `params`. Names and texts may be values of any kind.
-/

namespace PayloadCheck.Rule

open PayloadCheck.Text

/-- The fault of a configuration that does not describe a rule set. -/
def invalidConfig (detail : String) : Fault :=
  .configuration s!"Invalid rule set configuration: {detail}"

/-- The parameters of a rule: a list of values, or a value that is the only one. -/
def configParameters (entries : List (Value × Value)) : List Value :=
  let given := match Value.field? "params" entries with
    | some v => v
    | none => (Value.field? "parameters" entries).getD (.list [])
  match given with
  | .list items => items
  | v => [v]

/-- Reads one item of the list of a field's rules. -/
def readConfigRule (field : String) : Value → Except Fault Entry
  | .text s => .ok (.token s)
  | .map entries =>
    match Value.field? "rule" entries with
    | none => .error (.configuration s!"Rule for attribute '{field}' is missing 'rule'")
    | some rule => .spec <$> Builder.specOf rule (configParameters entries)
  | v => do
    let shown ← v.shown
    throw (.configuration
      s!"Rule for attribute '{field}' must be a string or a mapping, got {shown}")

/-- Reads the rules of one field. -/
def readConfigRules (field : String) : Value → Except Fault Entries
  | .text s => .ok (.joined s)
  | .list items => do return .listed (← items.mapM (readConfigRule field))
  | _ => .error (.configuration s!"Rules for attribute '{field}' must be a string or a list")

/-- Reads the rules of all fields, in order. -/
def readConfigFields (entries : List (Value × Value)) : Except Fault (FieldMap Entries) := do
  let fields ← entries.mapM fun (k, v) => do
    let field ← k.plain
    return (field, ← readConfigRules field v)
  return FieldMap.ofList fields

/-- Reads a section that maps texts to texts. A section without content may have any form. -/
def readConfigTexts (section_ : Option Value) : Except Fault (FieldMap String) :=
  match section_ with
  | none => .ok []
  | some v =>
    if !v.truth then .ok []
    else match v with
      | .map entries => do
        let texts ← entries.mapM fun (k, v) => do return (← k.plain, ← v.plain)
        return FieldMap.ofList texts
      | _ => .error (invalidConfig s!"'{v.kind}' object has no attribute 'items'")

/-- The name that a configuration gives, or else the given one. -/
def readConfigName (section_ : Option Value) (default : String) : Except Fault String :=
  match section_ with
  | some v => if v.truth then v.plain else .ok default
  | none => .ok default

/-- Reads the section of the rules. -/
def readConfigSection (section_ : Option Value) : Except Fault (FieldMap Entries) :=
  match section_ with
  | some (.map fields) => readConfigFields fields
  | _ => .error (.configuration "'rules' must map attribute names to rules")

/-- Reads the sections of a configuration, in order. -/
def RuleSet.ofSections (entries : List (Value × Value)) (defaultName : String) :
    Except Fault RuleSet := do
  let rules ← readConfigSection (Value.field? "rules" entries)
  let name ← readConfigName (Value.field? "name" entries) defaultName
  let messages ← readConfigTexts (Value.field? "messages" entries)
  let names ← readConfigTexts (Value.field? "attributes" entries)
  (RuleSet.ofParts name rules messages names).mapError fun fault => invalidConfig fault.message

/-- Reads a configuration. -/
def RuleSet.ofConfig (config : Value) (defaultName : String := "rules") :
    Except Fault RuleSet :=
  match config with
  | .map entries => RuleSet.ofSections entries defaultName
  | v => .error (.noProperty s!"'{v.kind}' object has no attribute 'get'")

end PayloadCheck.Rule
