import PayloadCheck.Presence.Identifier
import PayloadCheck.Presence.Query
import PayloadCheck.Text.Pieces

/-!
# Statements

A count of records as a statement: a table, and conditions on its columns. In the text of a
statement every value is a placeholder; the values are bound in the order of the placeholders.
-/

namespace PayloadCheck.Presence

open PayloadCheck.Text

/-- A value bound to a placeholder: one text, or several. -/
inductive Bound where
  | one (text : String)
  | many (texts : List String)
deriving DecidableEq, Repr

/-- A condition on a column. -/
inductive Condition where
  | equals (column : Identifier) (value : String)
  | differs (column : Identifier) (value : String)
  | anyOf (column : Identifier) (values : List String)
  | isNull (column : Identifier)
  | isNotNull (column : Identifier)

namespace Condition

/-- The text of a condition. -/
def chars : Condition → List Char
  | equals c _ => c.quotedChars ++ " = %s".toList
  | differs c _ => c.quotedChars ++ " <> %s".toList
  | anyOf c _ => c.quotedChars ++ " = ANY(%s)".toList
  | isNull c => c.quotedChars ++ " IS NULL".toList
  | isNotNull c => c.quotedChars ++ " IS NOT NULL".toList

/-- The value that a condition binds, if it has a placeholder. -/
def bound? : Condition → Option Bound
  | equals _ v | differs _ v => some (.one v)
  | anyOf _ vs => some (.many vs)
  | isNull _ | isNotNull _ => none

end Condition

/-- A count of records. -/
structure Statement where
  schema : Option Identifier
  table : Identifier
  conditions : List Condition

namespace Statement

/-- The table, with its schema in front if it has one. -/
def tableChars (s : Statement) : List Char :=
  match s.schema with
  | some schema => schema.quotedChars ++ '.' :: s.table.quotedChars
  | none => s.table.quotedChars

/-- The text of a statement. -/
def chars (s : Statement) : List Char :=
  "SELECT COUNT(*) AS count FROM ".toList ++ s.tableChars ++ " WHERE ".toList ++
    join " AND ".toList (s.conditions.map Condition.chars)

/-- The text of a statement. -/
def text (s : Statement) : String := String.ofList s.chars

/-- The bound values, in the order of the placeholders. -/
def bounds (s : Statement) : List Bound := s.conditions.filterMap Condition.bound?

/-- Reads an identifier of a rule. -/
def readName (name what : String) : Except Fault Identifier :=
  match Identifier.read name what with
  | .ok i => .ok i
  | .error fault => .error (.malformedRule "presence" fault.message)

/-- A further condition; two words ask for the missing and for the given value. -/
def extraCondition (column expected : String) : Except Fault Condition := do
  let c ← readName column "column"
  return if expected = "NULL" then .isNull c
    else if expected = "NOT_NULL" then .isNotNull c
    else .equals c expected

/-- The further conditions, in order. -/
def extraConditions : FieldMap String → Except Fault (List Condition)
  | [] => .ok []
  | (column, expected) :: rest => do
    let c ← extraCondition column expected
    return c :: (← extraConditions rest)

/-- The conditions that a query puts on the value, in order. -/
def mainConditions : Query → Except Fault (List Condition)
  | .single _ column value excluded idColumn _ => do
    let c ← readName column "column"
    let first := Condition.equals c value
    match excluded with
    | none => return [first]
    | some id => return [first, .differs (← readName (idName idColumn) "id_column") id]
  | .several _ column values _ => do return [.anyOf (← readName column "column") values]

/-- The schema in front of the table, if one is given. -/
def readSchema (schema : Option String) : Except Fault (Option Identifier) :=
  match givenName schema with
  | some name => some <$> readName name "schema"
  | none => .ok none

/-- The table that a query is about. -/
def tableOf : Query → String
  | .single table .. => table
  | .several table .. => table

/-- The further conditions of a query. -/
def extraOf : Query → FieldMap String
  | .single _ _ _ _ _ extra => extra
  | .several _ _ _ extra => extra

/-- The statement of a query. A query for any of no values needs none. -/
def ofQuery (schema : Option String) (q : Query) : Except Fault (Option Statement) :=
  match q with
  | .several _ _ [] _ => .ok none
  | _ => do
    let first ← mainConditions q
    let extra ← extraConditions (extraOf q)
    let schema ← readSchema schema
    let table ← readName (tableOf q) "table"
    return some ⟨schema, table, first ++ extra⟩

end Statement

end PayloadCheck.Presence
