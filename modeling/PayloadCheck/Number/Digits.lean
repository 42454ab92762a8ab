/-!
# Decimal digits

Writing natural numbers and integers with decimal digits, and the powers that give places their
weight.
-/

namespace PayloadCheck.Number

/-- `2` to a power. -/
def twoPow (n : Nat) : Nat := Nat.pow 2 n

/-- `10` to a power. -/
def tenPow (n : Nat) : Nat := Nat.pow 10 n

/-- The digit that stands for `n < 10`. -/
def digitChar (n : Nat) : Char := Char.ofNat (48 + n)

/-- The decimal digits of a natural number, the first one first. -/
def natChars (n : Nat) : List Char := Nat.toDigits 10 n

/-- The last `width` decimal digits of a natural number, zeros in front included. -/
def padded : (width n : Nat) → List Char
  | 0, _ => []
  | width + 1, n => padded width (n / 10) ++ [digitChar (n % 10)]

/-- The digits of a natural number, with zeros in front up to `width` digits. -/
def atLeast (width n : Nat) : List Char :=
  let cs := natChars n
  List.replicate (width - cs.length) '0' ++ cs

/-- An integer, with a minus sign where it is negative. -/
def intChars (i : Int) : List Char :=
  if i < 0 then '-' :: natChars i.natAbs else natChars i.natAbs

/-- An integer as text. -/
def intText (i : Int) : String := String.ofList (intChars i)

/-- A natural number as text. -/
def natText (n : Nat) : String := String.ofList (natChars n)

theorem length_padded (width n : Nat) : (padded width n).length = width := by
  induction width generalizing n with
  | zero => rfl
  | succ w ih => simp [padded, ih]

end PayloadCheck.Number
