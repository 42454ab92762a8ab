import PayloadCheck.Text.Quoted
import PayloadCheck.Time.Directive

/-!
# Date formats

A format is a sequence of items: characters that stand for themselves, runs of blanks, and
directives. A text is read by trying the items from left to right, each directive with its shapes
in order, and going back where a later item finds nothing; the whole text has to be used up.
-/

namespace PayloadCheck.Time

open PayloadCheck.Text PayloadCheck.Number

/-- One item of a format. -/
inductive Item where
  | literal (c : Char)
  | blanks
  | field (d : Directive)
deriving DecidableEq, Repr, Inhabited

/-- A format. -/
abbrev Format := List Item

namespace Item

/-- Whether a character is escaped in a regular expression. -/
def isEscaped (c : Char) : Bool := "\\.^$*+?()\x7b\x7d[]|".toList.contains c

/-- The length of an item in the regular expression of a format. -/
def width : Item → Nat
  | literal c => if isEscaped c then 2 else 1
  | blanks => 3
  | field d => d.width

/-- The lengths of the beginnings of `cs` that an item takes, in the order in which they are
tried. -/
def candidates (item : Item) (cs : List Char) : List Nat :=
  match item with
  | literal m => if Directive.fits [sameIgnoringCase m] cs then [1] else []
  | blanks => ((List.range (cs.takeWhile isBlank).length).map (· + 1)).reverse
  | field d => (d.shapes.filter fun shape => Directive.fits shape cs).map List.length

end Item

namespace Format

/-- The items that a letter after a percent sign stands for. -/
def ofLetter? (c : Char) : Option Format :=
  if c = '%' then some [.literal '%']
  else if c = 'c' then
    some [.field .weekdayShort, .blanks, .field .monthShort, .blanks, .field .day, .blanks,
      .field .hour, .literal ':', .field .minute, .literal ':', .field .second, .blanks,
      .field .year]
  else if c = 'x' then
    some [.field .month, .literal '/', .field .day, .literal '/', .field .shortYear]
  else if c = 'X' then
    some [.field .hour, .literal ':', .field .minute, .literal ':', .field .second]
  else (Directive.ofLetter? c).map fun d => [.field d]

/-- Reads a format. There is none where a percent sign is followed by no letter of a directive. -/
def ofChars? : List Char → Option Format
  | [] => some []
  | ['%'] => none
  | '%' :: c :: rest => do
    let items ← ofLetter? c
    let others ← ofChars? rest
    some (items ++ others)
  | c :: rest =>
    if isBlank c then
      match rest with
      | [] => some [.blanks]
      | d :: _ =>
        if isBlank d then ofChars? rest
        else (ofChars? rest).map fun items => .blanks :: items
    else (ofChars? rest).map fun items => .literal c :: items

/-- The first directive that a format names a second time, as a fault. The groups are numbered from
1, and places are counted in the regular expression of the format. -/
def repeated? (seen : List (Directive × Nat)) (group place : Nat) : Format → Option Fault
  | [] => none
  | .field d :: rest =>
    match seen.lookup d with
    | some first =>
      let name := quoted (String.ofList [d.letter])
      some (.pattern s!"redefinition of group name {name} as group {group}; was group {first} at position {place + 4}")
    | none => repeated? ((d, group) :: seen) (group + d.groups) (place + d.width) rest
  | item :: rest => repeated? seen group (place + item.width) rest

/-- The texts that the directives of a format take at the beginning of `cs`, and the rest. -/
def capture? : Format → List Char → Option (List (Directive × List Char) × List Char)
  | [], cs => some ([], cs)
  | item :: items, cs =>
    (item.candidates cs).findSome? fun n =>
      (capture? items (cs.drop n)).map fun (fields, rest) =>
        match item with
        | .field d => ((d, cs.take n) :: fields, rest)
        | _ => (fields, rest)

end Format

/-! ## From fields to a moment -/

/-- What the fields of a text have told so far. -/
structure Fields where
  year : Option Nat := none
  weekYear : Option Nat := none
  month : Nat := 1
  day : Nat := 1
  hour : Nat := 0
  minute : Nat := 0
  second : Nat := 0
  micro : Nat := 0
  weekday : Option Nat := none
  dayOfYear : Option Int := none
  /-- The number of the week, and whether weeks begin on Monday. -/
  weekOfYear : Option (Nat × Bool) := none
  week : Option Nat := none
  offset : Option Int := none
deriving Repr, Inhabited

/-- The number written by decimal digits of any script; blanks in front are passed over. -/
def decimalOf (cs : List Char) : Nat :=
  ofDigits ((cs.dropWhile isBlank).map fun c => (decimalValue? c).getD 0)

/-- The place of a name among names, its letters taken small. -/
def nameIndex? (names : List String) (cs : List Char) : Option Nat :=
  let name := lower (String.ofList cs)
  names.findIdx? (· == name)

/-- The value of an offset text. -/
def offsetOf? (cs : List Char) : Option Int :=
  if cs = ['Z'] then some 0
  else do
    let cs ←
      if cs[3]? = some ':' then
        let short := cs.take 3 ++ cs.drop 4
        if short.length ≤ 5 then some short
        else if short[5]? = some ':' then some (short.take 5 ++ short.drop 6) else none
      else some cs
    let seconds ← match (cs.drop 5).take 2 with
      | [] => some [0]
      | two => digitValues? two
    let fraction := cs.drop 8
    let hours := decimalOf ((cs.drop 1).take 2)
    let minutes := decimalOf ((cs.drop 3).take 2)
    let micro := decimalOf fraction * Number.tenPow (6 - fraction.length)
    let t : Int := (((hours * 60 + minutes) * 60 + ofDigits seconds) * ticksPerSecond + micro : Nat)
    some (if cs.head? = some '-' then -t else t)

/-- The hour of the day from an hour of the half day. -/
def hourFromHalf (half : Option (List Char)) (hour : Nat) : Nat :=
  match half.map fun cs => lower (String.ofList cs) with
  | some "pm" => if hour = 12 then 12 else hour + 12
  | some "am" | none => if hour = 12 then 0 else hour
  | some _ => hour

namespace Fields

/-- Takes one field into account. There is no result where a name is no name or an offset is
written in two ways at once. -/
def add? (all : List (Directive × List Char)) (f : Fields) (d : Directive) (cs : List Char) :
    Option Fields :=
  let n := decimalOf cs
  match d with
  | .shortYear => some { f with year := some (if n ≤ 68 then n + 2000 else n + 1900) }
  | .year => some { f with year := some n }
  | .weekYear => some { f with weekYear := some n }
  | .month => some { f with month := n }
  | .monthName | .monthShort => (nameIndex? d.names cs).map fun i => { f with month := i + 1 }
  | .day => some { f with day := n }
  | .hour => some { f with hour := n }
  | .hourOfHalf => some { f with hour := hourFromHalf (all.lookup .half) n }
  | .minute => some { f with minute := n }
  | .second => some { f with second := n }
  | .fraction => some { f with micro := n * Number.tenPow (6 - cs.length) }
  | .weekdayName | .weekdayShort => (nameIndex? d.names cs).map fun i => { f with weekday := some i }
  | .weekdayFromSunday => some { f with weekday := some (if n = 0 then 6 else n - 1) }
  | .weekday => some { f with weekday := some (n - 1) }
  | .dayOfYear => some { f with dayOfYear := some n }
  | .weekFromSunday => some { f with weekOfYear := some (n, false) }
  | .weekFromMonday => some { f with weekOfYear := some (n, true) }
  | .week => some { f with week := some n }
  | .offset => (offsetOf? cs).map fun t => { f with offset := some t }
  | .half | .zone => some f

/-- Takes all fields into account, in their order. -/
def ofList? (all : List (Directive × List Char)) : Option Fields :=
  all.foldlM (fun f (d, cs) => f.add? all d cs) {}

/-- The day of the year from the number of its week and the day of the week. -/
def dayFromWeek (year week weekday : Nat) (fromMonday : Bool) : Int :=
  let first := daysBeforeYear year % 7
  let first := if fromMonday then first else (first + 1) % 7
  let weekday := if fromMonday then weekday else (weekday + 1) % 7
  if week = 0 then 1 + (weekday : Int) - first
  else (1 + (7 - first) % 7 + 7 * (week - 1) + weekday : Nat)

/-- The year and the day of the year from a year's week, its weeks beginning on Monday. -/
def dayFromYearWeek? (year week weekday : Nat) : Option (Nat × Int) :=
  if year = 0 then none
  else
    let correction := (daysBeforeYear year + 3) % 7 + 1 + 3
    let ordinal : Int := (week * 7 + weekday + 1 : Nat) - (correction : Nat)
    if ordinal < 1 then
      if year = 1 then none
      else some (year - 1, ordinal + daysInYear (year - 1))
    else some (year, ordinal)

/-- Whether the fields on weeks go together: the week of a week year needs its year and a day of
the week, and nothing else that tells the day. -/
def weeksAgree (f : Fields) : Bool :=
  match f.weekYear, f.week with
  | some _, some _ => f.dayOfYear.isNone && f.weekday.isSome
  | none, none => true
  | _, _ => false

/-- The day that the fields tell. A missing year is 1900, which has no 29 February. -/
def date? (f : Fields) : Option Date := do
  if !f.weeksAgree then none
  let leapDay := f.year.isNone && f.month == 2 && f.day == 29
  let year := f.year.getD (if leapDay then 1904 else 1900)
  let (year, dayOfYear) ←
    match f.dayOfYear, f.weekday, f.weekOfYear, f.weekYear, f.week with
    | none, some weekday, some (week, fromMonday), _, _ =>
      if year = 0 then none else some (year, some (dayFromWeek year week weekday fromMonday))
    | none, some weekday, none, some weekYear, some week =>
      (dayFromYearWeek? weekYear week weekday).map fun (y, d) => (y, some d)
    | d, _, _, _, _ => some (year, d)
  let (year, dayOfYear) := match dayOfYear with
    | some d =>
      if f.dayOfYear.isNone && d ≤ 0 then (year - 1, some (d + daysInYear (year - 1)))
      else (year, some d)
    | none => (year, none)
  if year = 0 ∨ 9999 < year then none
  let date ← match dayOfYear with
    | none => if Date.isValid ⟨year, f.month, f.day⟩ then some ⟨year, f.month, f.day⟩ else none
    | some d => Date.ofDays? (daysBeforeYear year + (d - 1))
  let date : Date := if leapDay then { date with year := 1900 } else date
  if date.isValid then some date else none

/-- The moment that the fields tell. -/
def moment? (f : Fields) : Option Moment := do
  let date ← f.date?
  let m : Moment :=
    { date, hour := f.hour, minute := f.minute, second := f.second, micro := f.micro
      offset := f.offset }
  if m.isValid then some m else none

end Fields

/-- Reads a text by a format. There is no moment where the text does not have the format or tells
no moment that exists; a format that names a directive twice is a fault. -/
def Format.read (format : Format) (text : String) : Except Fault (Option Moment) :=
  match Format.repeated? [] 1 0 format with
  | some fault => .error fault
  | none =>
    .ok do
      let (all, rest) ← format.capture? text.toList
      if rest.isEmpty then (← Fields.ofList? all).moment? else none

/-- Reads a text by a written format. -/
def readBy (format text : String) : Except Fault (Option Moment) :=
  match Format.ofChars? format.toList with
  | none => .ok none
  | some f => f.read text

end PayloadCheck.Time
