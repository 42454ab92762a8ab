import PayloadCheck.Text.Pieces

/-!
# Sets of characters

A set of characters given by the closed intervals of their code points, written as text
("41-5a 61-7a aa", hexadecimal, ascending) and searched by halving.
-/

namespace PayloadCheck.Text

/-- The value of a hexadecimal digit, of either case. -/
def hexValue? (c : Char) : Option Nat :=
  let n := c.toNat
  if 48 ≤ n ∧ n ≤ 57 then some (n - 48)
  else if 97 ≤ n ∧ n ≤ 102 then some (n - 87)
  else if 65 ≤ n ∧ n ≤ 70 then some (n - 55)
  else none

/-- The digit that stands for `n < 16`, in lower case. -/
def hexDigit (n : Nat) : Char :=
  Char.ofNat (if n < 10 then 48 + n else 87 + n)

/-- `n` in lower-case hexadecimal, padded with zeros to `width` digits. -/
def hexPadded (width n : Nat) : List Char :=
  match width with
  | 0 => []
  | w + 1 => hexPadded w (n / 16) ++ [hexDigit (n % 16)]

/-- The number written by hexadecimal digits; other characters are passed over. -/
def readHex (cs : List Char) : Nat :=
  cs.foldl (fun n c => match hexValue? c with | some d => 16 * n + d | none => n) 0

/-- Closed intervals of code points, ascending and disjoint. -/
structure CodeSet where
  intervals : Array (Nat × Nat)

namespace CodeSet

/-- One written interval, "lo-hi", or a single code point. -/
def readInterval (cs : List Char) : Nat × Nat :=
  match pieces '-' cs with
  | [lo, hi] => (readHex lo, readHex hi)
  | _ => (readHex cs, readHex cs)

/-- Reads a table of intervals separated by spaces. -/
def read (table : List String) : CodeSet :=
  ⟨(table.flatMap fun line => (pieces ' ' line.toList).map readInterval).toArray⟩

/-- Halving search between `lo` and `hi`: the interval that holds `n`, if there is one. -/
def search (a : Array (Nat × Nat)) (n : Nat) : (fuel lo hi : Nat) → Option (Nat × Nat)
  | 0, _, _ => none
  | fuel + 1, lo, hi =>
    if lo < hi then
      let mid := (lo + hi) / 2
      match a[mid]? with
      | none => none
      | some (s, e) =>
        if n < s then search a n fuel lo mid
        else if e < n then search a n fuel (mid + 1) hi
        else some (s, e)
    else none

/-- The interval that holds the code point `n`. -/
def find? (s : CodeSet) (n : Nat) : Option (Nat × Nat) :=
  search s.intervals n (s.intervals.size + 1) 0 s.intervals.size

/-- Membership of a code point. -/
def contains (s : CodeSet) (n : Nat) : Bool := (s.find? n).isSome

end CodeSet

end PayloadCheck.Text
