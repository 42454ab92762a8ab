import PayloadCheck.Check.Basic

/-!
# Numbers and sizes

Rules on numbers, digits and sizes.
-/

namespace PayloadCheck.Check

open PayloadCheck.Value

/-- Whole numbers, whole doubles and decimals, and texts of whole numbers without superfluous
zeros. -/
def isInteger : Value → Except Fault Bool
  | .int _ => .ok true
  | .double d => .ok d.isInteger
  | .decimal d =>
    match d.toDouble? with
    | some x => .ok x.isInteger
    | none => .error (.badValue "cannot convert signaling NaN to float")
  | .text s => .ok (isIntegerText s)
  | _ => .ok false

/-- Lists, tuples and maps. -/
def isArray : Value → Bool
  | .list _ | .tuple _ | .map _ => true
  | _ => false

/-- Whether a file that was not completely uploaded is measured. -/
def isBrokenFile (c : Context) (v : Value) : Except Fault Bool :=
  if c.bags.isFile v then
    match v with
    | .upload u => .ok (!u.valid)
    | _ => .error (lacks v "is_valid")
  else .ok false

/-- The checks on numbers and sizes. -/
def numericChecks : List Check :=
  [.deciding "numeric" 0 fun _ _ v _ => .ok v.isNumeric,
   .deciding "integer" 0 fun _ _ v _ => isInteger v,
   .deciding "array" 0 fun _ _ v _ => .ok (isArray v),
   .deciding "digits" 1 fun _ _ v ps => do
     let length ← numericParameter (← parameter ps 0) "digits"
     if v.isNumeric then return (Number.whole (← v.comparable).length).same length
     else return false,
   .deciding "digits_between" 2 fun _ _ v ps => do
     let lower ← numericParameter (← parameter ps 0) "digits_between"
     let upper ← numericParameter (← parameter ps 1) "digits_between"
     let length := Number.whole (← v.comparable).length
     return lower.le length && length.le upper,
   .deciding "size" 1 fun c field v ps => do
     let size ← c.size field v
     return size.same (← numericParameter (← parameter ps 0) "size"),
   .deciding "between" 2 fun c field v ps => do
     let size ← c.size field v
     let lower ← numericParameter (← parameter ps 0) "between"
     let upper ← numericParameter (← parameter ps 1) "between"
     return lower.le size && size.le upper,
   .deciding "min" 1 fun c field v ps => do
     let size ← c.size field v
     return (← numericParameter (← parameter ps 0) "min").le size,
   .deciding "max" 1 fun c field v ps => do
     if ← isBrokenFile c v then return false
     let size ← c.size field v
     return size.le (← numericParameter (← parameter ps 0) "max")]

end PayloadCheck.Check
