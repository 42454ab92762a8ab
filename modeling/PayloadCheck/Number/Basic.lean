import PayloadCheck.Number.Decimal

/-!
# Numbers as rules compare them

A number is a whole number of any size or a double. Whole numbers and doubles are compared by
their exact values, without rounding; the value that is not a number is below, above and equal to
nothing.
-/

namespace PayloadCheck

/-- A whole number of any size, or a double. -/
inductive Number where
  | whole (value : Int)
  | double (value : Double)
deriving DecidableEq, Repr, Inhabited

namespace Number

/-- The double nearest to a number. -/
def toDouble : Number → Double
  | .whole i => .ofInt i
  | .double d => d

/-- The exact size of a number. -/
inductive Extent where
  | ratio (num : Int) (den : Nat)
  | infinite (negative : Bool)
  | undefined
deriving DecidableEq, Repr

/-- The exact size of a double. -/
def Extent.ofDouble : Double → Extent
  | .nan => .undefined
  | .infinite s => .infinite s
  | .finite s m e =>
    let (n, d) := Double.scale m 1 e
    .ratio (Double.signed s n) d

/-- The exact size of a number. -/
def extent : Number → Extent
  | .whole i => .ratio i 1
  | .double d => .ofDouble d

/-- The order of two sizes, if they have one. -/
def Extent.compare? : Extent → Extent → Option Ordering
  | .undefined, _ => none
  | _, .undefined => none
  | .infinite s, .infinite t => some (compare t s)
  | .infinite s, .ratio _ _ => some (if s then .lt else .gt)
  | .ratio _ _, .infinite t => some (if t then .gt else .lt)
  | .ratio a b, .ratio c d => some (compare (a * d) (c * b))

/-- The order of two numbers, if they have one. -/
def compare? (a b : Number) : Option Ordering := a.extent.compare? b.extent

/-- Equality of values. -/
def same (a b : Number) : Bool := a.compare? b == some .eq

/-- `a ≤ b`, false where the two have no order. -/
def le (a b : Number) : Bool :=
  match a.compare? b with
  | some .lt | some .eq => true
  | _ => false

/-- `a < b`, false where the two have no order. -/
def lt (a b : Number) : Bool := a.compare? b == some .lt

/-- The exact value of a decimal number, reduced, if it is finite. -/
def normal? : Number → Option (Bool × Nat × Int)
  | .whole i => some (Decimal.normal (i < 0) i.natAbs 0)
  | .double (.finite s m e) =>
    some (if 0 ≤ e then Decimal.normal s (m * twoPow e.toNat) 0
      else Decimal.normal s (m * Nat.pow 5 (-e).toNat) e)
  | .double _ => none

/-- Equality of a decimal number with a number, by exact value. -/
def sameDecimal (d : Decimal) (n : Number) : Bool :=
  match d, n with
  | .finite s m e, _ => n.normal? == some (Decimal.normal s m e)
  | .infinite s, .double (.infinite t) => s == t
  | _, _ => false

end Number

/-- Equality of two decimal numbers, by value. -/
def Decimal.same : Decimal → Decimal → Bool
  | .finite s m e, .finite t n f => normal s m e == normal t n f
  | .infinite s, .infinite t => s == t
  | _, _ => false

end PayloadCheck
