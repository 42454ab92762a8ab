import PayloadCheck.FieldMap
import PayloadCheck.Value.Path

/-!
# The environment

Settings that a caller does not give are looked up in the environment. A given text that is empty
and a given port of zero count as not given; what the environment holds counts as it is, be it
empty.
-/

namespace PayloadCheck

/-- Names with their texts. -/
abbrev Environment := FieldMap String

namespace Environment

/-- The given text, or the one in the environment. -/
def text? (env : Environment) (given : Option String) (name : String) : Option String :=
  match given with
  | some s => if s.isEmpty then env.get? name else some s
  | none => env.get? name

/-- The given text, the one in the environment, or the usual one. -/
def textOr (env : Environment) (given : Option String) (name usual : String) : String :=
  (env.text? given name).getD usual

/-- The number in the environment, or the usual one. -/
def numberOr (env : Environment) (name usual : String) : Except Fault Int :=
  Value.integerOf ((env.get? name).getD usual)

/-- The given port, the one in the environment, or the usual one. -/
def portOr (env : Environment) (given : Option Int) (name usual : String) : Except Fault Int :=
  match given with
  | some port => if port = 0 then env.numberOr name usual else .ok port
  | none => env.numberOr name usual

end Environment

end PayloadCheck
