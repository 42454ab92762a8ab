/-!
# The calendar

Days of the years 1 to 9999 in the proleptic Gregorian calendar, and their number counted from
1 January of the year 1. Weeks begin on Monday.
-/

namespace PayloadCheck.Time

/-- A day of the calendar. -/
structure Date where
  year : Nat
  month : Nat
  day : Nat
deriving DecidableEq, Repr, Inhabited

/-- Whether a year has 366 days. -/
def isLeap (year : Nat) : Bool := year % 4 == 0 && (year % 100 != 0 || year % 400 == 0)

/-- The lengths of the months of a year. -/
def monthLengths (leap : Bool) : List Nat :=
  [31, if leap then 29 else 28, 31, 30, 31, 30, 31, 31, 30, 31, 30, 31]

/-- The number of days of a month; none for a month that does not exist. -/
def daysInMonth (year month : Nat) : Nat :=
  if month = 0 then 0 else (monthLengths (isLeap year))[month - 1]?.getD 0

/-- The number of days before the year, for years from 1 on. -/
def daysBeforeYear (year : Nat) : Nat :=
  let y := year - 1
  365 * y + y / 4 - y / 100 + y / 400

/-- The number of days of the year before the month. -/
def daysBeforeMonth (year month : Nat) : Nat :=
  ((monthLengths (isLeap year)).take (month - 1)).foldl (· + ·) 0

/-- The number of days in a year. -/
def daysInYear (year : Nat) : Nat := if isLeap year then 366 else 365

namespace Date

/-- Whether a day exists, in the years 1 to 9999. -/
def isValid (d : Date) : Bool :=
  1 ≤ d.year && d.year ≤ 9999 && 1 ≤ d.month && d.month ≤ 12 &&
    1 ≤ d.day && d.day ≤ daysInMonth d.year d.month

/-- The number of days before `d`, counted from 1 January of the year 1. -/
def toDays (d : Date) : Nat :=
  daysBeforeYear d.year + daysBeforeMonth d.year d.month + (d.day - 1)

/-- The month and day that lie `n` days after the beginning of the first of the given months. -/
def locate : (lengths : List Nat) → (month n : Nat) → Nat × Nat
  | [], month, n => (month, n + 1)
  | len :: rest, month, n => if n < len then (month, n + 1) else locate rest (month + 1) (n - len)

/-- The year in which the day number `n` lies. -/
def yearOfDays (n : Nat) : Nat :=
  let guess := n * 400 / 146097 + 1
  if n < daysBeforeYear guess then guess - 1
  else if daysBeforeYear (guess + 1) ≤ n then guess + 1
  else guess

/-- The day with `n` days before it. -/
def ofDays (n : Nat) : Date :=
  let year := yearOfDays n
  let (month, day) := locate (monthLengths (isLeap year)) 1 (n - daysBeforeYear year)
  ⟨year, month, day⟩

/-- The number of days before the year 10000. -/
def dayLimit : Nat := 3652059

/-- The day with `n` days before it, if it lies in the years 1 to 9999. -/
def ofDays? (n : Int) : Option Date :=
  if 0 ≤ n ∧ n < dayLimit then some (ofDays n.toNat) else none

/-- The day of the week, Monday being 0. -/
def weekday (d : Date) : Nat := d.toDays % 7

end Date

/-- The day number of the Monday of a year's first week: the week that holds 4 January. -/
def firstMonday (year : Nat) : Int :=
  let start := daysBeforeYear year
  let weekday := start % 7
  if 3 < weekday then (start : Int) - weekday + 7 else (start : Int) - weekday

/-- Whether a year has 53 weeks. -/
def hasLongWeekYear (year : Nat) : Bool :=
  let weekday := daysBeforeYear year % 7
  weekday == 3 || (weekday == 2 && isLeap year)

/-- The day of a week of a year; weeks count from 1, days from 1 (Monday) to 7. -/
def ofWeek? (year week day : Nat) : Option Date :=
  if year = 0 ∨ week = 0 ∨ 53 < week ∨ (week = 53 ∧ !hasLongWeekYear year) ∨ day = 0 ∨ 7 < day then
    none
  else Date.ofDays? (firstMonday year + ((week - 1) * 7 + (day - 1) : Nat))

end PayloadCheck.Time
