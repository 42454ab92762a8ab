import PayloadCheck.FieldMap
import PayloadCheck.Report.Event
import PayloadCheck.Value.Basic

/-!
# Questions to the store

A verifier counts records: those with one value in a column, a record of a given id left out, or
those with any of several values; further conditions narrow the count. What a verifier answers may
depend on what it was asked before.
-/

namespace PayloadCheck.Presence

open PayloadCheck.Report

/-- A name that is given and not empty. -/
def givenName (name : Option String) : Option String := name.filter fun s => !s.isEmpty

/-- The column of the id; it has its usual name if none is given. -/
def idName (idColumn : Option String) : String := (givenName idColumn).getD "id"

theorem givenName_eq_some {name : Option String} {given : String} :
    givenName name = some given ↔ name = some given ∧ given ≠ "" := by
  simp [givenName, Option.filter_eq_some_iff]

theorem idName_ne_empty (idColumn : Option String) : idName idColumn ≠ "" := by
  unfold idName
  cases h : givenName idColumn with
  | none => decide
  | some name => exact (givenName_eq_some.mp h).2

theorem idName_some_idName (idColumn : Option String) :
    idName (some (idName idColumn)) = idName idColumn := by
  have h := givenName_eq_some.mpr ⟨rfl, idName_ne_empty idColumn⟩
  unfold idName at h ⊢
  rw [h]
  rfl

/-- A count of records. -/
inductive Query where
  | single (table column value : String) (excluded idColumn : Option String)
      (extra : FieldMap String)
  | several (table column : String) (values : List String) (extra : FieldMap String)
deriving DecidableEq, Repr

/-- What comes back: any value, or a fault, and what happened on the way. -/
structure Reply where
  answer : Except Fault Value
  events : List Event := []

/-- A verifier replies to a query after the queries that it was asked before, in their order. -/
structure Verifier where
  reply : (asked : List Query) → Query → Reply

end PayloadCheck.Presence
