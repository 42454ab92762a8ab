import PayloadCheck.Text.Pieces

/-!
# Labels in letters, digits and hyphens

A label with other characters is written by those of its characters that are among the first 128,
a hyphen, and numbers which say where the other characters go. The numbers are written with digits
`a` to `z` and `0` to `9`, the least one first, each with a threshold of its own, so that no mark is
needed between them.
-/

namespace PayloadCheck.Network

open PayloadCheck.Text

/-! ## Digits and thresholds -/

/-- The digit of a value below 36. -/
def labelDigit (d : Nat) : Char := Char.ofNat (if d < 26 then 97 + d else 22 + d)

/-- The value of a digit, of either case. -/
def labelDigitValue? (c : Char) : Option Nat :=
  let n := c.toNat
  if 97 ≤ n ∧ n ≤ 122 then some (n - 97)
  else if 65 ≤ n ∧ n ≤ 90 then some (n - 65)
  else if 48 ≤ n ∧ n ≤ 57 then some (n - 22)
  else none

/-- The threshold of the digit with weight index `k` (36, 72, …). -/
def threshold (bias k : Nat) : Nat := max 1 (min 26 (k - bias))

theorem threshold_pos (bias k : Nat) : 1 ≤ threshold bias k := by
  unfold threshold
  omega

theorem threshold_le (bias k : Nat) : threshold bias k ≤ 26 := by
  unfold threshold
  omega

/-- Scales a number down below 456, and counts 36 for each step. -/
def scaleDown (delta steps : Nat) : Nat × Nat :=
  if 455 < delta then scaleDown (delta / 35) (steps + 36) else (delta, steps)
termination_by delta

/-- The bias after a number was written, when the text has `length` characters. -/
def nextBias (delta length : Nat) (isFirst : Bool) : Nat :=
  let damped := if isFirst then delta / 700 else delta / 2
  let (scaled, steps) := scaleDown (damped + damped / length) 0
  steps + 36 * scaled / (scaled + 38)

/-! ## Writing -/

/-- The digits of a number. -/
def writeNumber (bias k q : Nat) : List Char :=
  let t := threshold bias k
  if q < t then [labelDigit q]
  else labelDigit (t + (q - t) % (36 - t)) :: writeNumber bias (k + 36) ((q - t) / (36 - t))
termination_by q
decreasing_by
  have := threshold_pos bias k
  exact Nat.lt_of_le_of_lt (Nat.div_le_self _ _) (by omega)

/-- What is known while the numbers are written. -/
structure Writing where
  digits : List Char
  delta : Nat
  bias : Nat
  written : Nat

/-- Goes past one character while those of code point `n` are inserted. -/
def Writing.pass (basic n : Nat) (w : Writing) (c : Char) : Writing :=
  if c.toNat < n then { w with delta := w.delta + 1 }
  else if c.toNat = n then
    { digits := w.digits ++ writeNumber w.bias 36 w.delta, delta := 0
      bias := nextBias w.delta (w.written + 1) (w.written == basic), written := w.written + 1 }
  else w

/-- Inserts the characters of the given code points, which ascend; `last` is the one before. -/
def Writing.insertAll (cs : List Char) (basic : Nat) : List Nat → (last : Nat) → Writing → Writing
  | [], _, w => w
  | n :: rest, last, w =>
    let skipped := { w with delta := w.delta + (n - last) * (w.written + 1) }
    let passed := cs.foldl (Writing.pass basic n) skipped
    insertAll cs basic rest (n + 1) { passed with delta := passed.delta + 1 }

/-- A label in letters, digits and hyphens, without the beginning that marks it as one. -/
def writeLabel (cs : List Char) : List Char :=
  let basic := cs.filter fun c => c.toNat < 128
  let others := (((cs.map Char.toNat).filter (128 ≤ ·)).mergeSort (· ≤ ·)).eraseDups
  let w := Writing.insertAll cs basic.length others 128 ⟨[], 0, 72, basic.length⟩
  if basic.isEmpty then w.digits else basic ++ '-' :: w.digits

/-! ## Reading -/

/-- Reads a number: its value, and the characters after it. -/
def readNumber (bias : Nat) : (k weight value : Nat) → List Char → Option (Nat × List Char)
  | _, _, _, [] => none
  | k, weight, value, c :: rest => do
    let d ← labelDigitValue? c
    let t := threshold bias k
    let value := value + d * weight
    if d < t then return (value, rest)
    readNumber bias (k + 36) (weight * (36 - t)) value rest

theorem length_readNumber {bias k weight value : Nat} {cs rest : List Char} {n : Nat}
    (h : readNumber bias k weight value cs = some (n, rest)) : rest.length < cs.length := by
  induction cs generalizing k weight value with
  | nil => simp [readNumber] at h
  | cons c cs ih =>
    simp only [readNumber] at h
    cases hd : labelDigitValue? c with
    | none => simp [hd] at h
    | some d =>
      simp only [hd, Option.bind_eq_bind, Option.bind_some] at h
      split at h
      · simp only [Option.pure_def, Option.some.injEq, Prod.mk.injEq] at h
        simp [h.2]
      · have := ih h
        simp only [List.length_cons]
        omega

/-- The greatest code point. -/
def greatestCode : Nat := 0x10ffff

/-- Inserts characters as the numbers say: `code` is the last one inserted, at the place before
`next`. -/
def insertCodes (text : List Nat) (code next bias : Nat) (isFirst : Bool) (cs : List Char) :
    Option (List Nat) :=
  if cs.isEmpty then some text
  else match h : readNumber bias 36 1 0 cs with
    | none => none
    | some (delta, rest) =>
      let place := next + delta
      let length := text.length + 1
      let code := code + place / length
      if greatestCode < code then none
      else
        let i := place % length
        insertCodes (text.take i ++ code :: text.drop i) code (i + 1)
          (nextBias delta length isFirst) false rest
termination_by cs.length
decreasing_by exact length_readNumber h

/-- The code points of a label written in letters, digits and hyphens. -/
def readLabel (cs : List Char) : Option (List Nat) :=
  match cut? '-' cs.reverse with
  | none => insertCodes [] 128 0 72 true cs
  | some (after, before) =>
    insertCodes (before.reverse.map Char.toNat) 128 0 72 true after.reverse

end PayloadCheck.Network
