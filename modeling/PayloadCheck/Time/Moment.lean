import PayloadCheck.Fault
import PayloadCheck.Number.Digits
import PayloadCheck.Time.Calendar

/-!
# Moments

A moment is a day and a time of day to the microsecond, with or without an offset from universal
time. Moments without an offset are read as universal time when they are ordered.
-/

namespace PayloadCheck.Time

open PayloadCheck.Number

/-- A day and a time of day; the offset is counted in microseconds, eastward positive. -/
structure Moment where
  date : Date
  hour : Nat
  minute : Nat
  second : Nat
  micro : Nat
  offset : Option Int
deriving DecidableEq, Repr, Inhabited

/-- The number of microseconds in a second. -/
def ticksPerSecond : Nat := 1000000

/-- The number of microseconds in a day. -/
def ticksPerDay : Nat := 86400 * ticksPerSecond

namespace Moment

/-- Midnight at the beginning of a day. -/
def midnight (d : Date) : Moment := ⟨d, 0, 0, 0, 0, none⟩

/-- Whether an offset stays below one day. -/
def isOffset (offset : Int) : Bool := offset.natAbs < ticksPerDay

/-- Whether day, time of day and offset exist. -/
def isValid (m : Moment) : Bool :=
  m.date.isValid && m.hour < 24 && m.minute < 60 && m.second < 60 && m.micro < ticksPerSecond &&
    m.offset.all isOffset

/-- Microseconds since the beginning of the day. -/
def dayTicks (m : Moment) : Nat :=
  ((m.hour * 60 + m.minute) * 60 + m.second) * ticksPerSecond + m.micro

/-- Microseconds since the beginning of the year 1, as the clock shows them. -/
def ticks (m : Moment) : Int := m.date.toDays * ticksPerDay + m.dayTicks

/-- The moment without offset that lies `t` microseconds after the beginning of the year 1. -/
def ofTicks? (t : Int) : Option Moment :=
  (Date.ofDays? (t / ticksPerDay)).map fun date =>
    let r := (t % ticksPerDay).toNat
    let s := r / ticksPerSecond
    ⟨date, s / 3600, s / 60 % 60, s % 60, r % ticksPerSecond, none⟩

/-- Microseconds since the beginning of the year 1 in universal time. -/
def instant (m : Moment) : Int := m.ticks - m.offset.getD 0

/-- The moment in universal time, without an offset. -/
def toUniversal (m : Moment) : Except Fault Moment :=
  match m.offset with
  | none => .ok m
  | some _ => match ofTicks? m.instant with
    | some u => .ok u
    | none => .error (.outOfRange "date value out of range")

/-- Equality: of clock readings where neither has an offset, of instants where both have. -/
def same (a b : Moment) : Bool :=
  match a.offset, b.offset with
  | none, none => a.ticks == b.ticks
  | some _, some _ => a.instant == b.instant
  | _, _ => false

/-- Year, month and day joined by hyphens. -/
def dateChars (d : Date) : List Char :=
  padded 4 d.year ++ '-' :: padded 2 d.month ++ '-' :: padded 2 d.day

/-- Seconds and microseconds, the latter only where there are any. -/
def fractionChars (micro : Nat) : List Char :=
  if micro = 0 then [] else '.' :: padded 6 micro

/-- Hour, minute and second joined by colons, and the fraction. -/
def clockChars (m : Moment) : List Char :=
  padded 2 m.hour ++ ':' :: padded 2 m.minute ++ ':' :: padded 2 m.second ++ fractionChars m.micro

/-- An offset: sign, hours and minutes, and the rest only where there is any. -/
def offsetChars (offset : Int) : List Char :=
  let t := offset.natAbs
  let s := t / ticksPerSecond
  let micro := t % ticksPerSecond
  let tail := if s % 60 = 0 ∧ micro = 0 then [] else ':' :: padded 2 (s % 60) ++ fractionChars micro
  (if offset < 0 then '-' else '+') :: padded 2 (s / 3600) ++ ':' :: padded 2 (s / 60 % 60) ++ tail

/-- Day, a separator, time of day, and the offset if there is one. -/
def isoChars (separator : Char) (m : Moment) : List Char :=
  dateChars m.date ++ separator :: clockChars m ++
    match m.offset with
    | none => []
    | some o => offsetChars o

/-- The text with the letter `T` between day and time of day. -/
def isoText (m : Moment) : String := String.ofList (isoChars 'T' m)

end Moment

/-- Year, month and day of a day. -/
def Date.isoText (d : Date) : String := String.ofList (Moment.dateChars d)

end PayloadCheck.Time
