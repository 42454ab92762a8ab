import PayloadCheck.Check.Basic

/-!
# Required values

The rules that react to missing values. They are run for missing values too.
-/

namespace PayloadCheck.Check

open PayloadCheck.Value

/-- Whether the value of a field is present. -/
def isFieldPresent (c : Context) (field : String) : Except Fault Bool := do
  return (← c.value field).isPresent field

/-- Whether every one of the fields is missing; the first present one ends the search. -/
def allMissing (c : Context) : List String → Except Fault Bool
  | [] => .ok true
  | field :: rest => do
    if ← isFieldPresent c field then return false
    allMissing c rest

/-- Whether any one of the fields is missing; the first missing one ends the search. -/
def anyMissing (c : Context) : List String → Except Fault Bool
  | [] => .ok false
  | field :: rest => do
    if ← isFieldPresent c field then anyMissing c rest else return true

/-- Whether a value is loosely equal to any one of the texts. -/
def equalsAny (v : Value) : List String → Except Fault Bool
  | [] => .ok false
  | p :: rest => do
    if ← looseEquals (.text p) v then return true
    equalsAny v rest

/-- The value is present if the condition holds. -/
def presentIf (condition : Except Fault Bool) (field : String) (v : Value) : Except Fault Bool := do
  if ← condition then return v.isPresent field else return true

/-- Agreement: yes, on, 1, true as texts, the number 1, or the truth value. -/
def isAgreement : Value → Bool
  | .text s => ["yes", "on", "1", "true"].contains s
  | .int i => i == 1
  | .bool b => b
  | _ => false

/-- The checks on required values. -/
def requiredChecks : List Check :=
  [.deciding "required" 0 fun _ field v _ => .ok (v.isPresent field),
   .deciding "accepted" 0 fun _ field v _ => .ok (v.isPresent field && isAgreement v),
   .deciding "sometimes" 0 fun _ _ _ _ => .ok true,
   .deciding "required_if" 2 fun c field v ps => do
     let other ← c.dataValue (← parameter ps 0)
     presentIf (equalsAny other (ps.drop 1)) field v,
   .deciding "required_with" 1 fun c field v ps =>
     presentIf ((!·) <$> allMissing c ps) field v,
   .deciding "required_with_all" 1 fun c field v ps =>
     presentIf ((!·) <$> anyMissing c ps) field v,
   .deciding "required_without" 1 fun c field v ps => presentIf (anyMissing c ps) field v,
   .deciding "required_without_all" 1 fun c field v ps => presentIf (allMissing c ps) field v]

end PayloadCheck.Check
