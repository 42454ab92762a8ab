import PayloadCheck.Check.Basic

/-!
# Stored records

The rules `unique` and `exists`: no record, or at least one, holds the value. Both ask the store
for a count and judge by it alone.
-/

namespace PayloadCheck.Check

open PayloadCheck.Presence PayloadCheck.Value PayloadCheck.Text

/-- Texts as their structure shows them in a list. -/
def shownTexts (ps : List String) : String := "[" ++ joinTexts ", " (ps.map quoted) ++ "]"

/-- Columns and values taken in turn. -/
def pairUp : List String → List (String × String)
  | column :: value :: rest => (column, value) :: pairUp rest
  | _ => []

/-- The further conditions that trailing parameters declare: columns and values in turn. -/
def extraConditions (segments : List String) (rule : String) : Except Fault (FieldMap String) :=
  if segments.length % 2 = 1 then
    .error (.malformedRule rule
      s!"Extra conditions must be column,value pairs, got {shownTexts segments}")
  else .ok (FieldMap.ofList (pairUp segments))

/-- The column that the second parameter names, or the field itself. -/
def columnOf (field : String) (ps : List String) : String := (givenName ps[1]?).getD field

/-- The record to be left out, and the column of its id. -/
def exclusionOf (ps : List String) : Option String × Option String :=
  match ps[2]? with
  | none => (none, none)
  | some id => (if lower id = "null" then none else some id, some (idName ps[3]?))

/-- Reads the column from the second parameter, if there is one. -/
def readColumn (field : String) (ps : List String) : Except Fault String := do
  return (givenName (← parameterIfGiven ps 1)).getD field

theorem readColumn_eq (field : String) (ps : List String) :
    readColumn field ps = .ok (columnOf field ps) := by
  rw [readColumn, parameterIfGiven_eq]
  rfl

/-- Reads the record to be left out from the third and the fourth parameter, if there are any. -/
def readExclusion (ps : List String) : Except Fault (Option String × Option String) := do
  match ← parameterIfGiven ps 2 with
  | none => return (none, none)
  | some id =>
    let idColumn ← parameterIfGiven ps 3
    return (if lower id = "null" then none else some id, some (idName idColumn))

theorem readExclusion_eq (ps : List String) : readExclusion ps = .ok (exclusionOf ps) := by
  rw [readExclusion, exclusionOf, parameterIfGiven_eq, parameterIfGiven_eq]
  cases ps[2]? <;> rfl

/-- The query of the rule `unique`. -/
def uniqueQuery (field : String) (v : Value) (ps : List String) : Except Fault Query := do
  let table ← parameter ps 0
  let column ← readColumn field ps
  let (excluded, idColumn) ← readExclusion ps
  let extra ← extraConditions (ps.drop 4) "unique"
  return .single table column (← v.comparable) excluded idColumn extra

theorem uniqueQuery_eq (field : String) (v : Value) (ps : List String) :
    uniqueQuery field v ps = do
      let table ← parameter ps 0
      let extra ← extraConditions (ps.drop 4) "unique"
      return .single table (columnOf field ps) (← v.comparable) (exclusionOf ps).1
        (exclusionOf ps).2 extra := by
  rw [uniqueQuery, readColumn_eq, readExclusion_eq]
  rfl

/-- The comparable texts of several values. -/
def comparables : List Value → Except Fault (List String)
  | [] => .ok []
  | v :: vs => do return (← v.comparable) :: (← comparables vs)

/-- The query of the rule `exists`, and the least count that satisfies it. -/
def existsQuery (field : String) (v : Value) (ps : List String) : Except Fault (Query × Nat) := do
  let table ← parameter ps 0
  let column ← readColumn field ps
  let extra ← extraConditions (ps.drop 2) "exists"
  match v with
  | .list items | .tuple items =>
    let values ← comparables items
    return (.several table column values extra, values.length)
  | _ => return (.single table column (← v.comparable) none none extra, 1)

theorem existsQuery_eq (field : String) (v : Value) (ps : List String) :
    existsQuery field v ps = do
      let table ← parameter ps 0
      let extra ← extraConditions (ps.drop 2) "exists"
      match v with
      | .list items | .tuple items =>
        let values ← comparables items
        return (.several table (columnOf field ps) values extra, values.length)
      | _ => return (.single table (columnOf field ps) (← v.comparable) none none extra, 1) := by
  rw [existsQuery, readColumn_eq]
  rfl

/-- The verdict of a check that asks; without a verifier there is none. -/
def asking (c : Context) (query : Except Fault (Query × (Int → Bool))) : Verdict :=
  if c.hasVerifier then
    match query with
    | .ok (q, judge) => .asks q judge
    | .error fault => .refused fault
  else .refused .noVerifier

/-- No record holds the value. -/
def uniqueCheck : Check where
  name := "unique"
  arity := 1
  run c field v ps := asking c do
    return (← uniqueQuery field v ps, fun count => count == 0)

/-- A record holds the value, or enough records hold one of its items. -/
def existsCheck : Check where
  name := "exists"
  arity := 1
  run c field v ps := asking c do
    let (q, least) ← existsQuery field v ps
    return (q, fun count => (least : Int) ≤ count)

/-- The checks on stored records. -/
def storedChecks : List Check := [uniqueCheck, existsCheck]

end PayloadCheck.Check
