import PayloadCheck.Number.Digits
import PayloadCheck.Number.Double

/-!
# The shortest decimal text of a double

The fewest decimal digits that round back to the double, and of those the nearest to it. For one,
two, … digits the two neighbours of the value on that decimal grid are tried in exact arithmetic.
-/

namespace PayloadCheck.Double

open Number

/-- A positive decimal number: its digits as a natural number without trailing zeros, and the
place of the point counted from the left end of the digits. -/
structure DecimalForm where
  digits : Nat
  point : Int
deriving DecidableEq, Repr

/-- `num / den` against `10 ^ p`. -/
def reachesPower (num den : Nat) (p : Int) : Bool :=
  if 0 ≤ p then den * tenPow p.toNat ≤ num else den ≤ num * tenPow (-p).toNat

/-- The number of digits before the point: `10 ^ (p - 1) ≤ num / den < 10 ^ p`. -/
def pointOf (num den : Nat) : Int :=
  let estimate := (binaryExponent num den) * 30103 / 100000
  let up := fun p => if reachesPower num den p then p + 1 else p
  let down := fun p => if reachesPower num den (p - 1) then p else p - 1
  down (down (up (up (up estimate))))

/-- The candidate with `n` digits: the neighbour of the value on the grid of `10 ^ (p - n)` that
rounds back, the nearer one if both do, the even one of a tie. Lengths are counted in quarters of
the distance between doubles; `below` and `above` are the ends of the interval that rounds to the
value, `closed` tells whether they belong to it. -/
def candidate (value below above : Nat) (closed : Bool) (e : Int) (s : Int) : Option Nat :=
  let p := tenPow s.toNat * twoPow (2 - e).toNat
  let q := tenPow (-s).toNat * twoPow (e - 2).toNat
  let inside := fun c =>
    if closed then below * q ≤ c * p && c * p ≤ above * q
    else below * q < c * p && c * p < above * q
  let f := value * q / p
  match inside f, inside (f + 1) with
  | true, false => some f
  | false, true => some (f + 1)
  | false, false => none
  | true, true =>
    let lower := value * q - f * p
    let upper := (f + 1) * p - value * q
    if lower < upper then some f
    else if upper < lower then some (f + 1)
    else if f % 2 = 0 then some f else some (f + 1)

/-- Tries `n` digits, then one more, as long as `fuel` lasts. -/
def shortestFrom (value below above : Nat) (closed : Bool) (e p : Int) :
    (fuel n : Nat) → DecimalForm
  | 0, _ => ⟨value, p⟩
  | fuel + 1, n =>
    match candidate value below above closed e (p - n) with
    | some d => if d = tenPow n then ⟨1, p + 1⟩ else ⟨d, p⟩
    | none => shortestFrom value below above closed e p fuel (n + 1)

/-- The shortest decimal form of the positive double `m · 2 ^ e`. -/
def shortest (m : Nat) (e : Int) : DecimalForm :=
  let (num, den) := scale m 1 e
  let below := if m = twoPow 52 ∧ minExponent < e then 4 * m - 1 else 4 * m - 2
  shortestFrom (4 * m) below (4 * m + 2) (m % 2 == 0) e (pointOf num den) 18 1

/-- At least two digits, as exponents are written. -/
def exponentChars (n : Nat) : List Char :=
  Number.atLeast 2 n

/-- Digits with the point at place `p`: positional where the point stands at most four places to
the left of the digits or at most sixteen places after their beginning, with an exponent of at
least two digits elsewhere. -/
def layout (digits : List Char) (p : Int) : List Char :=
  let n : Int := digits.length
  if -4 < p ∧ p ≤ 16 then
    if p ≤ 0 then ['0', '.'] ++ List.replicate (-p).toNat '0' ++ digits
    else if n ≤ p then digits ++ List.replicate (p - n).toNat '0' ++ ['.', '0']
    else digits.take p.toNat ++ '.' :: digits.drop p.toNat
  else
    let x := p - 1
    let mantissa := match digits with
      | [] => []
      | [d] => [d]
      | d :: rest => d :: '.' :: rest
    mantissa ++ ['e', if x < 0 then '-' else '+'] ++ exponentChars x.natAbs

/-- The text of a double. -/
def text : Double → String
  | .nan => "nan"
  | .infinite s => if s then "-inf" else "inf"
  | .finite s m e =>
    let body := if m = 0 then ['0', '.', '0'] else
      let form := shortest m e
      layout (Number.natChars form.digits) form.point
    String.ofList (if s then '-' :: body else body)

end PayloadCheck.Double
