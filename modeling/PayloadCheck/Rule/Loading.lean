import PayloadCheck.Folder
import PayloadCheck.Report.Event
import PayloadCheck.Rule.Config
import PayloadCheck.Yaml.Content

/-!
# Loading rule sets

A rule set is loaded from a file that contains a configuration. Without a name of its own it is
named after the file.
-/

namespace PayloadCheck.Rule

open PayloadCheck.Report

/-- The configuration in the text of a file. -/
def readConfig (path text : String) : Except Fault Value :=
  match Yaml.read text with
  | .ok config =>
    let hasRules := match config with
      | .map entries => (Value.field? "rules" entries).isSome
      | _ => false
    if hasRules then .ok config
    else .error (.configuration "Configuration file must contain 'rules' section")
  | .error (.malformed _) => .error (.configuration s!"Invalid YAML in {path}")
  | .error (.content outside) => .error outside.fault

/-- Loads the rule set of a file, and tells that it is loaded. -/
def RuleSet.load (folder : Folder) (path : String) : Except Fault (RuleSet × Event) := do
  let location := Location.ofPath path
  if !(← folder.exists? location.text) then
    throw (.noFile s!"Rule configuration file not found: {path}")
  let config ← readConfig location.text (← folder.readText location.text)
  let s ← RuleSet.ofConfig config location.stem
  return (s, .loaded s.name s.rules.length)

end PayloadCheck.Rule
