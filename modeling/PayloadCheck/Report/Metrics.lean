import PayloadCheck.Environment.Basic
import PayloadCheck.Number.Basic
import PayloadCheck.Report.Event
import PayloadCheck.Report.Exposition
import PayloadCheck.Report.Tally

/-!
# Metrics

What is counted of passes, rules, faults and queries, and the size of every pool. The metrics of a
run are drawn from its events alone. How long something took is not kept, only how often it was
timed.
-/

namespace PayloadCheck.Report

/-- How a pass ended. -/
inductive Ending where
  | passed
  | failed
  | aborted
deriving DecidableEq, Repr

/-- Everything that is counted. -/
structure Metrics where
  /-- Passes, by rule set and ending. -/
  passes : Tally (String × Ending) := {}
  /-- Timed passes, by rule set. -/
  passTimes : Tally String := {}
  /-- The numbers of failures of the passes, by rule set. -/
  failureCounts : FieldMap (List Number) := []
  /-- Failed rules, by rule set and rule. -/
  ruleFailures : Tally (String × String) := {}
  /-- Decisions whether a rule is run, by rule and outcome. -/
  decisions : Tally (String × Bool) := {}
  /-- Faults of the configuration, by their label. -/
  faults : Tally String := {}
  /-- Queries, by table and success. -/
  queries : Tally (String × Bool) := {}
  /-- Timed queries, by table. -/
  queryTimes : Tally String := {}
  /-- The sizes of pools. -/
  poolSizes : FieldMap Double := []

namespace Metrics

/-- Notes a pass that was completed. -/
def passEnded (m : Metrics) (ruleSet : String) (passed : Bool) (failures : Number) : Metrics :=
  { m with
    passes := m.passes.add (ruleSet, if passed then .passed else .failed)
    passTimes := m.passTimes.add ruleSet
    failureCounts := m.failureCounts.alter ruleSet fun old => old.getD [] ++ [failures] }

/-- Notes a rule that failed. -/
def ruleFailed (m : Metrics) (ruleSet rule : String) : Metrics :=
  { m with ruleFailures := m.ruleFailures.add (ruleSet, rule) }

/-- Notes a decision whether a rule is run. -/
def decided (m : Metrics) (rule : String) (applicable : Bool) : Metrics :=
  { m with decisions := m.decisions.add (rule, applicable) }

/-- Notes a fault of the configuration, by its label. -/
def misconfigured (m : Metrics) (ruleSet label : String) : Metrics :=
  { m with passes := m.passes.add (ruleSet, .aborted), faults := m.faults.add label }

/-- Notes a query. -/
def queried (m : Metrics) (table : String) (success : Bool) : Metrics :=
  { m with queries := m.queries.add (table, success) }

/-- Notes that a query was timed. -/
def queryTimed (m : Metrics) (table : String) : Metrics :=
  { m with queryTimes := m.queryTimes.add table }

/-- Sets the size of a pool. -/
def setPoolSize (m : Metrics) (pool : String) (size : Double) : Metrics :=
  { m with poolSizes := m.poolSizes.insert pool size }

/-- Notes an event. -/
def note (m : Metrics) : Event → Metrics
  | .considered _ rule skip => m.decided rule skip.isNone
  | .failed ruleSet rule => m.ruleFailed ruleSet rule
  | .misconfigured ruleSet _ fault => m.misconfigured ruleSet fault.label
  | .passEnded ruleSet _ failures => m.passEnded ruleSet (failures == 0) (.whole failures)
  | .counted table _ => (m.queryTimed table).queried table true
  | .countFailed table _ => (m.queryTimed table).queried table false
  | .poolOpened pool _ _ _ size => m.setPoolSize pool (.ofInt size)
  | .poolClosed pool => m.setPoolSize pool 0
  | _ => m

/-- The metrics of a run. -/
def ofEvents (events : List Event) : Metrics := events.foldl note {}

/-! ## Families -/

/-- A count as a value. -/
def countValue (n : Nat) : Double := .ofInt n

/-- The samples of a tally. -/
def tallied {α : Type} (labels : α → List (String × String)) (t : Tally α) (ending : String := "") :
    List Sample :=
  t.entries.map fun (a, n) => { ending, labels := labels a, value := countValue n }

/-- The greatest number of failures of each bucket. -/
def bounds : List Double := [0, 1, 2, 5, 10, 25, 50, 100, .infinite false]

/-- How many numbers lie within a bound. -/
def within (numbers : List Number) (bound : Double) : Nat :=
  (numbers.filter fun n => n.le (.double bound)).length

/-- The samples of the numbers of failures of a rule set. -/
def spread (ruleSet : String) (numbers : List Number) : List Sample :=
  let labels := [("rule_set", ruleSet)]
  let count := numbers.filter fun n => n.le (.double (.infinite false))
  bounds.map (fun b => ⟨"_bucket", labels ++ [("le", sampleText b)], countValue (within numbers b)⟩)
    ++ [⟨"_count", labels, countValue count.length⟩,
        ⟨"_sum", labels, numbers.foldl (fun sum n => sum + n.toDouble) 0⟩]

/-- The word for an ending. -/
def endingWord : Ending → String
  | .passed => "passed"
  | .failed => "failed"
  | .aborted => "error"

/-- The families, in the order in which they are shown. -/
def families (m : Metrics) : List Family :=
  [⟨"fieldrules_validation_passes_total", "Total number of validation passes", .counter,
      tallied (fun (s, e) => [("rule_set", s), ("outcome", endingWord e)]) m.passes⟩,
   ⟨"fieldrules_validation_pass_duration_seconds", "Time spent in one validation pass in seconds",
      .histogram, tallied (fun s => [("rule_set", s)]) m.passTimes "_count"⟩,
   ⟨"fieldrules_validation_failures_per_pass",
      "Number of failures recorded by one validation pass", .histogram,
      m.failureCounts.flatMap fun (s, numbers) => spread s numbers⟩,
   ⟨"fieldrules_rule_failures_total", "Total number of failed rule evaluations", .counter,
      tallied (fun (s, r) => [("rule_set", s), ("rule", r)]) m.ruleFailures⟩,
   ⟨"fieldrules_rule_evaluations_total", "Total number of rule applicability decisions", .counter,
      tallied (fun (r, b) => [("rule", r), ("state", if b then "applicable" else "skipped")])
        m.decisions⟩,
   ⟨"fieldrules_configuration_errors_total", "Total number of configuration errors raised",
      .counter, tallied (fun label => [("error_type", label)]) m.faults⟩,
   ⟨"fieldrules_presence_queries_total", "Total number of presence verifier count queries",
      .counter,
      tallied (fun (t, b) => [("table", t), ("status", if b then "success" else "error")])
        m.queries⟩,
   ⟨"fieldrules_presence_query_duration_seconds",
      "Time spent in presence verifier count queries in seconds", .histogram,
      tallied (fun t => [("table", t)]) m.queryTimes "_count"⟩,
   ⟨"fieldrules_db_connection_pool_size", "Current size of the presence verifier connection pool",
      .gauge, m.poolSizes.map fun (p, size) => { labels := [("pool_name", p)], value := size }⟩]

/-- The lines that show the metrics. -/
def lines (m : Metrics) : List String := m.families.flatMap Family.lines

/-- The text that shows the metrics. -/
def text (m : Metrics) : String := String.join (m.lines.map (· ++ "\n"))

end Metrics

/-- The port on which metrics are served. -/
def metricsPort (given : Option Int) (env : Environment) : Except Fault Int :=
  env.portOr given "METRICS_PORT" "8000"

end PayloadCheck.Report
