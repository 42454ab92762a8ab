import PayloadCheck.Rule.Name

/-!
# Rule specifications

A rule specification is an identifier and the parameters in their order.
-/

namespace PayloadCheck.Rule

open PayloadCheck.Text

/-- A rule identifier and its parameters. -/
structure Spec where
  name : String
  parameters : List String
deriving DecidableEq, Repr, Inhabited

namespace Spec

/-- The key under which the rule is found. -/
def key (s : Spec) : String := Rule.key s.name

/-- The readable name, under which messages are written. -/
def readable (s : Spec) : String := Rule.readable s.name

/-- The text of a specification: its readable name, and its parameters after a colon. -/
def text (s : Spec) : String :=
  if s.parameters.isEmpty then s.readable
  else s.readable ++ ":" ++ joinTexts "," s.parameters

/-- Specifications agree when their identifiers do, whatever their parameters. -/
def same (a b : Spec) : Bool := a.name == b.name

end Spec

end PayloadCheck.Rule
