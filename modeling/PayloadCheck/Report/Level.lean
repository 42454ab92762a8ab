import PayloadCheck.Environment.Basic
import PayloadCheck.Text.Casing

/-!
# Levels

How grave a log record is. A log at some level takes the records of that level and of the graver
ones.
-/

namespace PayloadCheck.Report

/-- How grave a record is. -/
inductive Level where
  | debug
  | info
  | warning
  | error
  | critical
deriving DecidableEq, Repr, Inhabited

namespace Level

/-- The levels from the least grave to the gravest. -/
def all : List Level := [debug, info, warning, error, critical]

/-- The number of a level. -/
def rank : Level → Nat
  | debug => 10
  | info => 20
  | warning => 30
  | error => 40
  | critical => 50

/-- The name of a level. -/
def name : Level → String
  | debug => "DEBUG"
  | info => "INFO"
  | warning => "WARNING"
  | error => "ERROR"
  | critical => "CRITICAL"

/-- The level of a name, in letters of any case; a name that no level has stands for `info`. -/
def ofName (s : String) : Level := (all.find? fun l => l.name == Text.upper s).getD info

/-- Whether a log at the level takes a record. -/
def takes (log record : Level) : Bool := log.rank ≤ record.rank

/-- The level of a log: the given one, the one in the environment, or the usual one. -/
def chosen (given : Option String) (env : Environment) (usual : String := "INFO") : Level :=
  ofName (env.textOr given "LOG_LEVEL" usual)

end Level

end PayloadCheck.Report
