import PayloadCheck.Rule.RuleMap
import PayloadCheck.Value.Scalar

/-!
# Sizes

The size by which a value is measured: the number itself where a rule of the field asks for
numbers, the count of a collection, a file's kilobytes, and otherwise the length of the text.
-/

namespace PayloadCheck.Check

open PayloadCheck.Rule

/-- Keys of the rules that make a numeric value count as a number. -/
def numericKeys : List String := ["numeric", "integer", "max", "min", "size"]

/-- Whether one of the rules makes a numeric value count as a number. -/
def hasNumericRule (rules : List Spec) : Bool := rules.any fun r => numericKeys.contains r.key

/-- The fault of a value without a property. -/
def lacks (v : Value) (property : String) : Fault :=
  .noProperty s!"'{v.kind}' object has no attribute '{property}'"

/-- The fault of a file whose kilobytes lie beyond the doubles. -/
def oversized : Fault := .outOfRange "integer division result too large for a float"

/-- The size of a file in kilobytes. -/
def kilobytes : Value → Except Fault Number
  | .upload u =>
    match Double.ofRatio false u.size 1024 with
    | .infinite _ => .error oversized
    | d => .ok (.double d)
  | v => .error (lacks v "size")

/-- The number of items of a collection. -/
def itemCount? : Value → Option Nat
  | .list items | .tuple items | .set items => some items.length
  | .map entries => some entries.length
  | _ => none

/-- The size of a value of a field that has the given rules. -/
def sizeOf (isFile : Value → Bool) (rules : List Spec) (v : Value) : Except Fault Number :=
  if v.isNumeric && hasNumericRule rules then v.toNumber
  else match itemCount? v with
    | some n => .ok (.whole n)
    | none =>
      if isFile v then kilobytes v
      else do return .whole (← v.comparable).length

end PayloadCheck.Check
