import PayloadCheck.Check.Builtin
import PayloadCheck.Check.Outcome
import PayloadCheck.Command.Invocation
import PayloadCheck.Json.Writing

/-!
# Results as output

The outcome of a check and the list of the rules, as text or as JSON.
-/

namespace PayloadCheck.Command

open PayloadCheck.Check PayloadCheck.Text

/-- The outcome of a check as a document. -/
def outcomeDocument (name : String) (o : Outcome) : Json.Document :=
  .object
    [("rule_set", .text name), ("passed", .bool o.passed),
     ("messages", .list (o.messages.map fun (field, text) => .object [(field, .text text)])),
     ("failures", .list (o.failures.map fun f => .object
        [("attribute", .text f.field), ("rule", .text f.rule),
         ("parameters", .list (f.parameters.map .text))]))]

/-- The lines that show the outcome of a check. -/
def outcomeLines (name : String) (o : Outcome) : List String :=
  if o.passed then [s!"{name}: PASSED"]
  else
    s!"{name}: FAILED ({o.failures.length} failure(s))" ::
      o.messages.map fun (field, text) => s!"  {field}: {text}"

/-- The outcome of a check in a form. -/
def outcomeText (name : String) (o : Outcome) : OutputForm → String
  | .json => (outcomeDocument name o).render
  | .text => joinTexts "\n" (outcomeLines name o)

/-- A text filled with blanks to a width. -/
def padded (width : Nat) (s : String) : String :=
  s ++ String.ofList (List.replicate (width - s.length) ' ')

/-- The width of the column of rules. -/
def ruleWidth : Nat := 24

/-- The list of the rules in a form. -/
def rulesText : OutputForm → String
  | .json =>
    (Json.Document.list (builtin.describe.map fun (name, arity) => .object
      [("rule", .text name), ("min_parameters", .number arity)])).render
  | .text =>
    joinTexts "\n" (builtin.describe.map fun (name, arity) =>
      s!"{padded ruleWidth name} {arity}")

end PayloadCheck.Command
