import PayloadCheck.Json.Writing
import PayloadCheck.Report.Event
import PayloadCheck.Report.Level

/-!
# Log records

A record has a logger, a level, a message and further fields. As a line it shows the first three;
as an object it shows the further fields too. The names of a record's own parts are not free for
further fields.
-/

namespace PayloadCheck.Report

open PayloadCheck.Text

/-- A record. -/
structure LogRecord where
  logger : String
  level : Level
  message : String
  extra : FieldMap Value := []

/-- The form in which records are written. -/
inductive LogForm where
  | object
  | line
deriving DecidableEq, Repr

/-- The form of a name. -/
def LogForm.ofName (name : String) : LogForm := if name == "json" then .object else .line

namespace LogRecord

/-- Names of a record's own parts, which no further field may have. -/
def reserved : List String :=
  ["message", "asctime", "name", "msg", "args", "levelname", "levelno", "pathname", "filename",
   "module", "exc_info", "exc_text", "stack_info", "lineno", "funcName", "created", "msecs",
   "relativeCreated", "thread", "threadName", "processName", "process"]

/-- Names that an object fills by itself. -/
def filled : List String := ["timestamp", "level", "logger", "function", "taskName"]

/-- The fault of a further field with a reserved name. -/
def clash (name : String) : Fault :=
  .noKey s!"\"Attempt to overwrite {quoted name} in LogRecord\""

/-- A record whose further fields have free names. -/
def make (logger : String) (level : Level) (message : String) (extra : FieldMap Value) :
    Except Fault LogRecord :=
  match extra.keys.find? reserved.contains with
  | some name => .error (clash name)
  | none => .ok ⟨logger, level, message, extra⟩

/-- The level as an object shows it: a further field of that name takes its place, if it is a text;
any other value that is true cannot be shown. -/
def shownLevel? (r : LogRecord) : Option String :=
  match r.extra.get? "level" with
  | some (.text s) => some (if s.isEmpty then r.level.name else upper s)
  | some v => if v.truth then none else some r.level.name
  | none => some r.level.name

/-- The further fields that an object shows. -/
def shownExtra (r : LogRecord) : FieldMap Value :=
  r.extra.filter fun (name, _) => !filled.contains name && !name.startsWith "_"

/-- The fields of a record in a form, if it can be shown. -/
def fields? (r : LogRecord) : LogForm → Option (FieldMap Value)
  | .line =>
    some [("logger", .text r.logger), ("level", .text r.level.name), ("message", .text r.message)]
  | .object => do
    let level ← r.shownLevel?
    return [("level", .text level), ("logger", .text r.logger), ("message", .text r.message)] ++
      r.shownExtra

/-- A plain value as a document; other values are shown by their text. -/
def document : Value → Json.Document
  | .null => .null
  | .bool b => .bool b
  | .int i => .number i
  | v => .text (v.plain.toOption.getD "")

/-- The line that a log writes for a record, if it can be shown. -/
def line? (r : LogRecord) : LogForm → Option String
  | .line => some s!"{r.logger} - {r.level.name} - {r.message}"
  | .object => do
    let fields ← r.fields? .object
    return (Json.Document.object (fields.map fun (name, v) => (name, document v))).line

end LogRecord

/-! ## Records of events -/

/-- The word for the reason why a rule is not run. -/
def Skip.reason : Skip → String
  | notSubmitted => "not submitted"
  | valueMissing => "value missing"

/-- The record of an event, if it leaves one. -/
def Event.record? : Event → Option LogRecord
  | considered field rule (some skip) =>
    some ⟨"fieldrules.core.rules.applicability", .debug, s!"Skipping rule '{rule}' for '{field}'",
      [("attribute", .text field), ("rule", .text rule), ("reason", .text skip.reason)]⟩
  | misconfigured ruleSet .construction fault =>
    some ⟨"fieldrules.core.rules.rule_engine", .error,
      s!"Invalid rule configuration for '{ruleSet}': {fault.message}", []⟩
  | misconfigured ruleSet .pass fault =>
    some ⟨"fieldrules.core.rules.rule_engine", .error,
      s!"Validation pass '{ruleSet}' aborted: {fault.message}", []⟩
  | passEnded ruleSet fields failures =>
    let outcome := if failures = 0 then "passed" else "failed"
    some ⟨"fieldrules.core.rules.rule_engine", .info, s!"Validation pass '{ruleSet}' {outcome}",
      [("rule_set", .text ruleSet), ("attributes", .int fields), ("failures", .int failures)]⟩
  | storeFailed detail =>
    some ⟨"fieldrules.core.validators.database", .error, s!"Presence verifier failed: {detail}", []⟩
  | counted table count =>
    some ⟨"fieldrules.verifiers.database", .debug, s!"Presence count on '{table}': {count}", []⟩
  | countFailed table detail =>
    some ⟨"fieldrules.verifiers.database", .error,
      s!"Presence count on '{table}' failed: {detail}", []⟩
  | loaded ruleSet fields =>
    some ⟨"fieldrules.core.rules.rule_config", .debug,
      s!"Loaded rule set '{ruleSet}' with {fields} attributes", []⟩
  | connectFailed try_ tries detail =>
    some ⟨"fieldrules.verifiers.connection", .warning,
      s!"Connection attempt {try_}/{tries} failed: {detail}", []⟩
  | poolOpened pool host port database _ =>
    some ⟨"fieldrules.verifiers.connection", .info,
      s!"Connection pool '{pool}' open on {host}:{port}/{database}", []⟩
  | checking ruleSet =>
    some ⟨"fieldrules.cli.validate_cli", .info, s!"Checking payload against rule set '{ruleSet}'", []⟩
  | commandFailed text => some ⟨"fieldrules.cli.validate_cli", .error, text, []⟩
  | considered _ _ none | failed .. | poolClosed _ => none

/-- The records of events that a log at a level takes. -/
def recordsOf (level : Level) (events : List Event) : List LogRecord :=
  (events.filterMap Event.record?).filter fun r => level.takes r.level

end PayloadCheck.Report
