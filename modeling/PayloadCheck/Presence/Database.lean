import PayloadCheck.Presence.Statement

/-!
# Verifiers over a database

A database carries out statements; a verifier over it writes a statement for each query. A query
that names no identifier is refused before anything is carried out.
-/

namespace PayloadCheck.Presence

open PayloadCheck.Report

/-- A database carries out a statement after those that it carried out before: it gives the count
of a row, no row, or the text of its fault. -/
structure Database where
  execute : (before : List Statement) → Statement → Except String (Option Int)

/-- The statements that queries lead to, in order. -/
def statementsOf (schema : Option String) (asked : List Query) : List Statement :=
  asked.filterMap fun q => (Statement.ofQuery schema q).toOption.join

/-- The fault of a database that does not count. -/
def countFault (table detail : String) : Fault :=
  .verifierAfter s!"Presence count on '{table}' failed: {detail}" (.database detail)

/-- Carries out the statement of a query. -/
def Database.count (db : Database) (before : List Statement) (table : String) (s : Statement) :
    Reply :=
  match db.execute before s with
  | .ok row =>
    let count := row.getD 0
    ⟨.ok (.int count), [.counted table count]⟩
  | .error detail => ⟨.error (countFault table detail), [.countFailed table detail]⟩

/-- The verifier over a database; a schema stands in front of every table if it is given. -/
def Database.verifier (db : Database) (schema : Option String) : Verifier where
  reply asked q :=
    match Statement.ofQuery schema q with
    | .error fault => ⟨.error fault, []⟩
    | .ok none => ⟨.ok (.int 0), []⟩
    | .ok (some s) => db.count (statementsOf schema asked) (Statement.tableOf q) s

end PayloadCheck.Presence
