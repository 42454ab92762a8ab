import PayloadCheck.Check.Basic

/-!
# Comparisons

Rules that compare a value with another field or with listed texts.
-/

namespace PayloadCheck.Check

open PayloadCheck.Value

/-- Whether a value is neither missing nor null. -/
def isSet : Value → Bool
  | .absent | .null => false
  | _ => true

/-- The other field is set, and its value is loosely equal to this one or not, as wanted. -/
def comparesTo (c : Context) (v : Value) (other : String) (equal : Bool) : Except Fault Bool := do
  let w ← c.dataValue other
  if isSet w then return (← looseEquals v w) == equal else return false

/-- The checks that compare. -/
def comparisonChecks : List Check :=
  [.deciding "same" 1 fun c _ v ps => do comparesTo c v (← parameter ps 0) true,
   .deciding "different" 1 fun c _ v ps => do comparesTo c v (← parameter ps 0) false,
   .deciding "confirmed" 0 fun c field v _ => comparesTo c v (field ++ "_confirmation") true,
   .deciding "in" 0 fun _ _ v ps => do return ps.contains (← v.comparable),
   .deciding "not_in" 0 fun _ _ v ps => do return !ps.contains (← v.comparable)]

end PayloadCheck.Check
