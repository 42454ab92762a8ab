import PayloadCheck.Presence.Statement

/-!
# Tables of records

A store of records, and what it means to count them. A record holds texts in its columns; a column
may be missing or hold nothing. A verifier counts a store if it answers every query with the number
of records that the query is about (`Verifier.Counts`).
-/

namespace PayloadCheck.Presence

/-- A record: what it holds in its columns. -/
abbrev Row := FieldMap (Option String)

/-- The text in a column of a record. -/
def Row.cell (row : Row) (column : String) : Option String := (row.get? column).join

/-- Whether a record meets a further condition: the column holds nothing, or something, or the
text that is asked for. -/
def Row.Meets (row : Row) (condition : String × String) : Prop :=
  if condition.2 = "NULL" then row.cell condition.1 = none
  else if condition.2 = "NOT_NULL" then row.cell condition.1 ≠ none
  else row.cell condition.1 = some condition.2

instance (row : Row) (condition : String × String) : Decidable (row.Meets condition) :=
  inferInstanceAs (Decidable (ite _ _ _))

/-- Tables of records. Stores disagree on a record without an id: `missingDiffers` tells whether
its id counts as different from a given one. -/
structure Tables where
  tables : FieldMap (List Row)
  missingDiffers : Bool

namespace Tables

/-- The records of a table; a table that is not there has none. -/
def rows (t : Tables) (table : String) : List Row := (t.tables.get? table).getD []

/-- Whether the id of a record is another than the given one. -/
def Differs (t : Tables) (row : Row) (idColumn id : String) : Prop :=
  (row.cell idColumn).elim (t.missingDiffers = true) (· ≠ id)

instance (t : Tables) (row : Row) (idColumn id : String) : Decidable (t.Differs row idColumn id) :=
  match h : row.cell idColumn with
  | none => decidable_of_iff (t.missingDiffers = true) (by simp [Differs, h])
  | some other => decidable_of_iff (other ≠ id) (by simp [Differs, h])

/-- Whether a query is about a record of its table. -/
def Holds (t : Tables) (q : Query) (row : Row) : Prop :=
  match q with
  | .single _ column value excluded idColumn extra =>
    row.cell column = some value ∧ (∀ id ∈ excluded, t.Differs row (idName idColumn) id) ∧
      ∀ condition ∈ extra, row.Meets condition
  | .several _ column values extra =>
    (∃ value ∈ values, row.cell column = some value) ∧ ∀ condition ∈ extra, row.Meets condition

instance (t : Tables) (q : Query) (row : Row) : Decidable (t.Holds q row) :=
  match q with
  | .single .. => inferInstanceAs (Decidable (_ ∧ _ ∧ _))
  | .several .. => inferInstanceAs (Decidable (_ ∧ _))

/-- The number of records that a query is about. -/
def count (t : Tables) (q : Query) : Nat :=
  (t.rows (Statement.tableOf q)).countP fun row => decide (t.Holds q row)

/-- The verifier that counts. -/
def verifier (t : Tables) : Verifier where
  reply _ q := ⟨.ok (.int (t.count q)), []⟩

/-- A query counts none iff it is about no record of its table. -/
theorem count_eq_zero_iff {t : Tables} {q : Query} :
    t.count q = 0 ↔ ∀ row ∈ t.rows (Statement.tableOf q), ¬ t.Holds q row := by
  unfold count
  rw [List.countP_eq_zero]
  simp only [decide_eq_true_eq]

/-- A query counts something iff it is about some record of its table. -/
theorem one_le_count_iff {t : Tables} {q : Query} :
    1 ≤ t.count q ↔ ∃ row ∈ t.rows (Statement.tableOf q), t.Holds q row := by
  unfold count
  rw [Nat.one_le_iff_ne_zero, ← Nat.pos_iff_ne_zero, List.countP_pos_iff]
  simp only [decide_eq_true_eq]

end Tables

/-- A verifier that counts the records of a store, whatever it was asked before. -/
def Verifier.Counts (verifier : Verifier) (t : Tables) : Prop :=
  ∀ asked q, (verifier.reply asked q).answer = .ok (.int (t.count q))

theorem Tables.verifier_counts (t : Tables) : t.verifier.Counts t := fun _ _ => rfl

end PayloadCheck.Presence
