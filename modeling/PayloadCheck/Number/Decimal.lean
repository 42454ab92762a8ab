import PayloadCheck.Number.Shortest
import PayloadCheck.Number.Literal

/-!
# Decimal numbers

A decimal number keeps its digits as written: `± coefficient · 10 ^ exponent`, so `1.50` and `1.5`
differ in text and agree in value. It may also be infinite or not a number; the latter can be
signalling, which makes every use of it an error.
-/

namespace PayloadCheck

/-- A decimal number. -/
inductive Decimal where
  | finite (negative : Bool) (coefficient : Nat) (exponent : Int)
  | infinite (negative : Bool)
  | undefined (negative signalling : Bool) (payload : String)
deriving DecidableEq, Repr, Inhabited

namespace Decimal

open PayloadCheck.Text PayloadCheck.Number

/-- Reads a decimal number. -/
def read? (text : String) : Option Decimal :=
  let (negative, cs) := takeSign (trimChars text.toList)
  let small := cs.map fun c => if isAsciiUpper c then Char.ofNat (c.toNat + 32) else c
  let payload? := fun (rest : List Char) =>
    if rest.all isAsciiDigit then some (String.ofList (rest.dropWhile (· == '0'))) else none
  if small = "inf".toList ∨ small = "infinity".toList then some (.infinite negative)
  else if small.take 3 = "nan".toList then
    (payload? (small.drop 3)).map (.undefined negative false)
  else if small.take 4 = "snan".toList then
    (payload? (small.drop 4)).map (.undefined negative true)
  else
    let (whole, rest) := spanDigits cs
    let (fraction, rest) := match rest with
      | '.' :: more => spanDigits more
      | _ => ([], rest)
    match optionalDigits? whole, optionalDigits? fraction, exponent? rest with
    | some a, some b, some e =>
      if a.isEmpty && b.isEmpty then none
      else some (.finite negative (ofDigits (a ++ b)) (e - b.length))
    | _, _, _ => none

/-- A sign before a text, when it is negative. -/
def withSign (negative : Bool) (cs : List Char) : List Char := if negative then '-' :: cs else cs

/-- The text of a decimal number: positional where the exponent is not positive and at most six
zeros follow the point before the first digit, with an exponent elsewhere. -/
def textChars : Decimal → List Char
  | .infinite s => withSign s "Infinity".toList
  | .undefined s q payload =>
    withSign s ((if q then ['s'] else []) ++ "NaN".toList ++ payload.toList)
  | .finite s m e =>
    let digits := natChars m
    let n : Int := digits.length
    let left := e + n
    let point := if e ≤ 0 ∧ -6 < left then left else 1
    let body :=
      if point ≤ 0 then ['0', '.'] ++ List.replicate (-point).toNat '0' ++ digits
      else if n ≤ point then digits ++ List.replicate (point - n).toNat '0'
      else digits.take point.toNat ++ '.' :: digits.drop point.toNat
    let x := left - point
    let tail := if x = 0 then [] else
      ['E', if x < 0 then '-' else '+'] ++ natChars x.natAbs
    withSign s (body ++ tail)

/-- The text of a decimal number. -/
def text (d : Decimal) : String := String.ofList (textChars d)

/-- The double nearest to a decimal number; there is none for a signalling one. -/
def toDouble? : Decimal → Option Double
  | .finite s m e => some (.ofScientific s m e)
  | .infinite s => some (.infinite s)
  | .undefined _ signalling _ => if signalling then none else some .nan

/-- Whether a decimal number is zero. -/
def isZero : Decimal → Bool
  | .finite _ m _ => m == 0
  | _ => false

/-- A number without its trailing zeros, and how many there were. -/
def stripZeros (m : Nat) : Nat × Nat :=
  if _h : m ≠ 0 ∧ m % 10 = 0 then
    let (k, n) := stripZeros (m / 10)
    (k, n + 1)
  else (m, 0)
termination_by m
decreasing_by omega

/-- The one form of a value: no trailing zeros, and zero has no sign and no exponent. -/
def normal (negative : Bool) (coefficient : Nat) (exponent : Int) : Bool × Nat × Int :=
  if coefficient = 0 then (false, 0, 0)
  else
    let (m, zeros) := stripZeros coefficient
    (negative, m, exponent + zeros)

end Decimal

end PayloadCheck
