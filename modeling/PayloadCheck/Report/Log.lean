import PayloadCheck.Report.LogRecord

/-!
# Logs

A log writes the records of one logger from some level on. An operation leaves one record when it
starts and one when it ends. The package has a log of its own, which every logger below it uses;
any other logger gets a log when it is first asked for.
-/

namespace PayloadCheck.Report

/-- A log. -/
structure Log where
  name : String
  level : Level
  form : LogForm
  records : List LogRecord := []

namespace Log

/-- The name that records of a logger show; the outermost logger has no name of its own. -/
def shownName (name : String) : String := if name.isEmpty then "root" else name

/-- Writes a record, if its level is taken. -/
def write (log : Log) (level : Level) (message : String) (extra : FieldMap Value) :
    Except Fault Log :=
  if log.level.takes level then do
    let r ← LogRecord.make (shownName log.name) level message extra
    return { log with records := log.records ++ [r] }
  else .ok log

/-- Writes the records of an operation, which ends well or with a fault. -/
def operation (log : Log) (name : String) (extra : FieldMap Value) (fault : Option Fault) :
    Except Fault Unit × Log :=
  let with_ (fields : FieldMap Value) : FieldMap Value :=
    FieldMap.merge (("operation", .text name) :: fields) extra
  match log.write .debug s!"Starting: {name}" (with_ []) with
  | .error clash => (.error clash, log)
  | .ok log =>
    let ended := match fault with
      | none => log.write .info s!"Completed: {name}" (with_ [("status", .text "success")])
      | some f =>
        log.write .error s!"Failed: {name}" (with_ [("status", .text "error"),
          ("error_type", .text f.label), ("error_message", .text f.message)])
    match ended, fault with
    | .error clash, _ => (.error clash, log)
    | .ok log, none => (.ok (), log)
    | .ok log, some f => (.error f, log)

/-- The fields of the records, in the form of the log. -/
def fields (log : Log) : List (FieldMap Value) := log.records.filterMap (·.fields? log.form)

end Log

/-! ## Loggers -/

/-- The name of the package's logger. -/
def packageLogger : String := "fieldrules"

/-- The loggers that have a log of their own, with its level. -/
abbrev Loggers := FieldMap Level

/-- A logger as it is found: whether its records go on to the logger above, and the rank of its own
level, 0 if it has none. -/
structure FoundLogger where
  passesOn : Bool
  rank : Nat
deriving DecidableEq, Repr

namespace Loggers

/-- Gives a logger a log of its own. -/
def setUp (loggers : Loggers) (name : String) (level : Level) : Loggers :=
  loggers.insert (Log.shownName name) level

/-- Finds a logger. -/
def find (loggers : Loggers) (env : Environment) (name : String) : FoundLogger × Loggers :=
  match loggers.get? (Log.shownName name) with
  | some level => (⟨false, level.rank⟩, loggers)
  | none =>
    if name.startsWith (packageLogger ++ ".") then (⟨true, 0⟩, loggers)
    else
      let level := Level.chosen none env
      (⟨false, level.rank⟩, loggers.setUp name level)

end Loggers

end PayloadCheck.Report
