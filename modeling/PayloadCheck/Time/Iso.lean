import PayloadCheck.Text.Property
import PayloadCheck.Time.Moment

/-!
# Moments in the standard notation

Reading the notations of the standard: a day as `2024-01-15`, `20240115`, or by week as
`2024-W03-1`, `2024W031`; then, after any one character, a time of day with or without colons,
down to hours, minutes, seconds or a fraction after a point or comma; then `Z` or an offset.
One more character before the offset is passed over, and so is everything that follows the sixth
place of a fraction there.
-/

namespace PayloadCheck.Time

open PayloadCheck.Text

/-- The number written by the first `n` characters, all of them digits, and the rest. -/
def takeDigits? (n : Nat) (cs : List Char) : Option (Nat × List Char) :=
  let ds := cs.take n
  if ds.length = n ∧ ds.all isAsciiDigit then
    some (ds.foldl (fun v c => 10 * v + (c.toNat - 48)) 0, cs.drop n)
  else none

/-- Whether more follows. The character NUL ends a text. -/
def hasMore (cs : List Char) : Bool :=
  match cs with
  | [] => false
  | c :: _ => c != Char.ofNat 0

/-- The number of characters that make up the day at the beginning of a text. -/
def dayLength? (cs : List Char) : Option Nat :=
  if cs.length < 7 then none
  else if cs.length = 7 then some 7
  else if cs[4]? = some '-' then
    if cs[5]? = some 'W' then
      if cs[8]? = some '-' then
        if cs.length = 9 then none
        else if cs[10]?.any isAsciiDigit then some 8 else some 10
      else some 8
    else some 10
  else if cs[4]? = some 'W' then
    let stop := 7 + ((cs.drop 7).takeWhile isAsciiDigit).length
    if stop < 9 then some stop else if stop % 2 = 0 then some 7 else some 8
  else some 8

/-- A hyphen where hyphens are used. -/
def takeHyphen? (hyphens : Bool) (cs : List Char) : Option (List Char) :=
  if hyphens then
    match cs with
    | '-' :: rest => some rest
    | _ => none
  else some cs

/-- A day by the number of its week. -/
def readWeek? (year : Nat) (hyphens : Bool) (cs : List Char) : Option Date := do
  let (week, rest) ← takeDigits? 2 cs
  if rest.isEmpty then ofWeek? year week 1
  else
    let rest ← takeHyphen? hyphens rest
    let (day, _) ← takeDigits? 1 rest
    ofWeek? year week day

/-- A day, by month or by week. -/
def readDay? (cs : List Char) : Option Date := do
  let (year, rest) ← takeDigits? 4 cs
  let hyphens := rest.head? == some '-'
  let rest := if hyphens then rest.drop 1 else rest
  match rest with
  | 'W' :: rest => readWeek? year hyphens rest
  | _ =>
    let (month, rest) ← takeDigits? 2 rest
    let rest ← takeHyphen? hyphens rest
    let (day, rest) ← takeDigits? 2 rest
    let date : Date := ⟨year, month, day⟩
    if rest.isEmpty && date.isValid then some date else none

/-- What is read of a time of day or an offset: the fields from the hour on, the microseconds,
and whether something is left over. -/
structure ClockReading where
  fields : List Nat
  micro : Nat
  leftOver : Bool

/-- A fraction of at most six places; further digits are passed over. -/
def readFraction? (cs : List Char) : Option ClockReading := do
  let places := min 6 cs.length
  let (value, rest) ← takeDigits? places cs
  some ⟨[], value * Number.tenPow (6 - places), hasMore (rest.dropWhile isAsciiDigit)⟩

/-- Up to `left` fields of two digits and a fraction. Whether colons stand between the fields is
decided by what follows the first one. -/
def readClock? : (left : Nat) → (colons : Option Bool) → List Char → Option ClockReading
  | 0, _, cs => readFraction? cs
  | left + 1, colons, cs =>
    match takeDigits? 2 cs with
    | none => none
    | some (value, []) => some ⟨[value], 0, false⟩
    | some (value, [c]) => some ⟨[value], 0, hasMore [c]⟩
    | some (value, c :: more) =>
      let colons := colons.getD (c == ':')
      let rest :=
        if colons && c == ':' then readClock? left (some colons) more
        else if c == '.' || c == ',' then readFraction? more
        else if colons then none
        else readClock? left (some colons) (c :: more)
      rest.map fun r => { r with fields := value :: r.fields }

/-- The characters that begin an offset. -/
def beginsOffset (c : Char) : Bool := c == '+' || c == '-' || c == 'Z'

/-- An offset in microseconds; the outer `none` means that there is no such offset. -/
def readOffset? : List Char → Option (Option Int)
  | [] => some none
  | 'Z' :: rest => if hasMore rest then none else some (some 0)
  | sign :: rest =>
    match readClock? 3 none rest with
    | some ⟨fields, micro, false⟩ =>
      let seconds := fields[0]?.getD 0 * 3600 + fields[1]?.getD 0 * 60 + fields[2]?.getD 0
      let t : Int := (seconds * ticksPerSecond + micro : Nat)
      some (some (if sign = '-' then -t else t))
    | _ => none

/-- Reads a moment in the standard notation. -/
def readIso? (cs : List Char) : Option Moment := do
  let n ← dayLength? cs
  let date ← readDay? (cs.take n)
  if cs.length ≤ n then return .midnight date
  let time := cs.drop (n + 1)
  let clock ← readClock? 3 none (time.takeWhile fun c => !beginsOffset c)
  let zone := time.dropWhile fun c => !beginsOffset c
  if zone.isEmpty && clock.leftOver then none
  let offset ← readOffset? zone
  let m : Moment :=
    { date, hour := clock.fields[0]?.getD 0, minute := clock.fields[1]?.getD 0
      second := clock.fields[2]?.getD 0, micro := clock.micro, offset }
  if m.isValid then some m else none

end PayloadCheck.Time
