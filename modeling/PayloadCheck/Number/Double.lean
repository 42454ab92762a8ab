import PayloadCheck.Number.Digits

/-!
# Binary floating-point numbers of double precision

A finite double is `± mantissa · 2 ^ exponent` with a mantissa below `2 ^ 53`; the exponent is the
least possible one, so every value but zero has one form. Rounding is exact: to the nearest
double, a tie to the even mantissa.
-/

namespace PayloadCheck

open Number

/-- A double: not a number, an infinity, or a finite value. -/
inductive Double where
  | nan
  | infinite (negative : Bool)
  | finite (negative : Bool) (mantissa : Nat) (exponent : Int)
deriving DecidableEq, Repr, Inhabited

namespace Double

/-- The least exponent of a finite double. -/
def minExponent : Int := -1074

/-- The greatest exponent of a finite double. -/
def maxExponent : Int := 971

/-- Positive or negative zero. -/
def zero (negative : Bool) : Double := .finite negative 0 minExponent

/-- The quotient rounded to the nearest natural number, a tie to the even one. -/
def roundDiv (num den : Nat) : Nat :=
  let q := num / den
  let r := num % den
  if 2 * r < den then q
  else if den < 2 * r then q + 1
  else if q % 2 = 0 then q else q + 1

/-- `num · 2 ^ e / den` as a quotient of natural numbers. -/
def scale (num den : Nat) (e : Int) : Nat × Nat :=
  if 0 ≤ e then (num * twoPow e.toNat, den) else (num, den * twoPow (-e).toNat)

/-- The exponent `k` with `2 ^ k ≤ num / den < 2 ^ (k + 1)`, for positive `num` and `den`. -/
def binaryExponent (num den : Nat) : Int :=
  let k : Int := (Nat.log2 num : Int) - (Nat.log2 den : Int)
  let (n, d) := scale num den (-k)
  if n < d then k - 1 else k

/-- The double nearest to `± num / den`. -/
def ofRatio (negative : Bool) (num den : Nat) : Double :=
  if num = 0 then zero negative
  else
    let e := max (binaryExponent num den - 52) minExponent
    let (n, d) := scale num den (-e)
    let m := roundDiv n d
    let (m, e) := if m = twoPow 53 then (twoPow 52, e + 1) else (m, e)
    if maxExponent < e then .infinite negative else .finite negative m e

/-- The double nearest to an integer; an integer beyond the largest double gives an infinity. -/
def ofInt (i : Int) : Double := ofRatio (i < 0) i.natAbs 1

/-- The double nearest to `± coefficient · 10 ^ exponent`. Far outside the range of doubles the
power is not formed. -/
def ofScientific (negative : Bool) (coefficient : Nat) (exponent : Int) : Double :=
  if coefficient = 0 then zero negative
  else
    let top := exponent + (Nat.log2 coefficient / 3 : Nat)
    if 400 < exponent then .infinite negative
    else if top < -400 then zero negative
    else if 0 ≤ exponent then ofRatio negative (coefficient * tenPow exponent.toNat) 1
    else ofRatio negative coefficient (tenPow (-exponent).toNat)

/-- Whether a double is finite. -/
def isFinite : Double → Bool
  | .finite _ _ _ => true
  | _ => false

/-- The sign applied to a natural number. -/
def signed (negative : Bool) (n : Nat) : Int := if negative then -(n : Int) else n

/-- A finite double as an exact quotient. -/
def toRatio? : Double → Option (Int × Nat)
  | .finite s m e =>
    let (n, d) := scale m 1 e
    some (signed s n, d)
  | _ => none

/-- Whether a double is a whole number. -/
def isInteger : Double → Bool
  | .finite _ m e => 0 ≤ e || m % twoPow (-e).toNat == 0
  | _ => false

/-- A finite double without its fractional part. -/
def truncate? : Double → Option Int
  | .finite s m e =>
    some (signed s (if 0 ≤ e then m * twoPow e.toNat else m / twoPow (-e).toNat))
  | _ => none

/-- Whether a double is zero, of either sign. -/
def isZero : Double → Bool
  | .finite _ m _ => m == 0
  | _ => false

/-- The double nearest to the sum. -/
def add : Double → Double → Double
  | .nan, _ => .nan
  | _, .nan => .nan
  | .infinite s, .infinite t => if s = t then .infinite s else .nan
  | .infinite s, _ => .infinite s
  | _, .infinite t => .infinite t
  | .finite s m e, .finite t n f =>
    let low := min e f
    let a := signed s (m * twoPow (e - low).toNat)
    let b := signed t (n * twoPow (f - low).toNat)
    let sum := a + b
    if sum = 0 then zero (s && t)
    else
      let (num, den) := scale sum.natAbs 1 low
      ofRatio (sum < 0) num den

/-- The double of the opposite sign. -/
def neg : Double → Double
  | .nan => .nan
  | .infinite s => .infinite (!s)
  | .finite s m e => .finite (!s) m e

instance : Add Double := ⟨add⟩
instance : Neg Double := ⟨neg⟩
instance : OfNat Double n := ⟨ofInt n⟩

end Double

end PayloadCheck
