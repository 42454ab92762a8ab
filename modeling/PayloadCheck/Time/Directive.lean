import PayloadCheck.Number.Literal
import PayloadCheck.Text.Caseless
import PayloadCheck.Time.Moment

/-!
# Directives of a date format

A directive stands for one field of a moment. The texts it takes are given by shapes, sequences of
character classes, in the order in which they are tried; `pattern` writes the same shapes as a
regular expression, whose length counts in fault texts.
-/

namespace PayloadCheck.Time

open PayloadCheck.Text

/-- The fields that a date format can name. -/
inductive Directive where
  | day | month | year | shortYear
  | hour | hourOfHalf | half | minute | second | fraction
  | dayOfYear
  | weekday | weekdayFromSunday | weekdayName | weekdayShort
  | monthName | monthShort
  | weekFromSunday | weekFromMonday | weekYear | week
  | offset | zone
deriving DecidableEq, Repr, Inhabited

/-- The names of the days of the week, Monday first. -/
def weekdayNames : List String :=
  ["monday", "tuesday", "wednesday", "thursday", "friday", "saturday", "sunday"]

/-- The names of the months. -/
def monthNames : List String :=
  ["january", "february", "march", "april", "may", "june", "july", "august", "september",
   "october", "november", "december"]

/-- The first three letters of each name. -/
def shortNames (names : List String) : List String :=
  names.map fun s => String.ofList (s.toList.take 3)

/-- Longer names before shorter ones, otherwise in their order. -/
def longestFirst (names : List String) : List String :=
  names.mergeSort fun a b => b.length ≤ a.length

namespace Directive

/-- The letter that names a directive. -/
def letter : Directive → Char
  | day => 'd' | month => 'm' | year => 'Y' | shortYear => 'y'
  | hour => 'H' | hourOfHalf => 'I' | half => 'p' | minute => 'M' | second => 'S' | fraction => 'f'
  | dayOfYear => 'j'
  | weekday => 'u' | weekdayFromSunday => 'w' | weekdayName => 'A' | weekdayShort => 'a'
  | monthName => 'B' | monthShort => 'b'
  | weekFromSunday => 'U' | weekFromMonday => 'W' | weekYear => 'G' | week => 'V'
  | offset => 'z' | zone => 'Z'

/-- All directives. -/
def all : List Directive :=
  [day, month, year, shortYear, hour, hourOfHalf, half, minute, second, fraction, dayOfYear,
   weekday, weekdayFromSunday, weekdayName, weekdayShort, monthName, monthShort, weekFromSunday,
   weekFromMonday, weekYear, week, offset, zone]

/-- The directive that a letter names. -/
def ofLetter? (c : Char) : Option Directive := all.find? (·.letter = c)

/-- The names that a directive takes, if it takes names. -/
def names : Directive → List String
  | weekdayName => weekdayNames
  | weekdayShort => shortNames weekdayNames
  | monthName => monthNames
  | monthShort => shortNames monthNames
  | half => ["am", "pm"]
  | zone => ["utc", "gmt"]
  | _ => []

/-- The regular expression of the texts that a directive takes. -/
def pattern : Directive → String
  | day => r"3[0-1]|[1-2]\d|0[1-9]|[1-9]| [1-9]"
  | month => r"1[0-2]|0[1-9]|[1-9]"
  | year => r"\d\d\d\d"
  | shortYear => r"\d\d"
  | hour => r"2[0-3]|[0-1]\d|\d"
  | hourOfHalf => r"1[0-2]|0[1-9]|[1-9]"
  | minute => r"[0-5]\d|\d"
  | second => r"6[0-1]|[0-5]\d|\d"
  | fraction => "[0-9]\x7b1,6\x7d"
  | dayOfYear => r"36[0-6]|3[0-5]\d|[1-2]\d\d|0[1-9]\d|00[1-9]|[1-9]\d|0[1-9]|[1-9]"
  | weekday => r"[1-7]"
  | weekdayFromSunday => r"[0-6]"
  | weekFromSunday => r"5[0-3]|[0-4]\d|\d"
  | weekFromMonday => r"5[0-3]|[0-4]\d|\d"
  | weekYear => r"\d\d\d\d"
  | week => r"5[0-3]|0[1-9]|[1-4]\d|\d"
  | offset => "[+-]\\d\\d:?[0-5]\\d(:?[0-5]\\d(\\.\\d\x7b1,6\x7d)?)?|(?-i:Z)"
  | d => joinTexts "|" (longestFirst d.names)

/-- The number of groups that a directive opens in the regular expression of a format. -/
def groups : Directive → Nat
  | offset => 3
  | _ => 1

/-- The length of a directive in the regular expression of a format: its pattern in a group named
by its letter. -/
def width (d : Directive) : Nat := d.pattern.length + 7

/-! ## Shapes -/

/-- A sequence of character classes. -/
abbrev Shape := List (Char → Bool)

/-- The digits from `lo` to `hi`. -/
def between (lo hi : Char) (c : Char) : Bool := lo ≤ c && c ≤ hi

/-- Exactly one character. -/
def exactly (m : Char) (c : Char) : Bool := c == m

/-- A name, without regard to case. -/
def spelled (name : String) : Shape := name.toList.map sameIgnoringCase

/-- The shapes of an offset: sign, hours, minutes, and perhaps seconds and a fraction, with or
without colons, the longer ones first; or the letter `Z`. -/
def offsetShapes : List Shape :=
  let colon : List Shape := [[exactly ':'], []]
  let sixty : Shape := [between '0' '5', isDecimal]
  let fractions : List Shape :=
    ([6, 5, 4, 3, 2, 1].map fun n => exactly '.' :: List.replicate n isDecimal) ++ [[]]
  let seconds : List Shape :=
    (colon.flatMap fun c => fractions.map fun f => c ++ sixty ++ f) ++ [[]]
  let start : Shape := [fun c => c == '+' || c == '-', isDecimal, isDecimal]
  (colon.flatMap fun c => seconds.map fun s => start ++ c ++ sixty ++ s) ++ [[exactly 'Z']]

/-- The shapes of the texts that a directive takes, in the order in which they are tried. -/
def shapes : Directive → List Shape
  | day =>
    [[exactly '3', between '0' '1'], [between '1' '2', isDecimal], [exactly '0', between '1' '9'],
     [between '1' '9'], [exactly ' ', between '1' '9']]
  | month | hourOfHalf =>
    [[exactly '1', between '0' '2'], [exactly '0', between '1' '9'], [between '1' '9']]
  | year | weekYear => [[isDecimal, isDecimal, isDecimal, isDecimal]]
  | shortYear => [[isDecimal, isDecimal]]
  | hour => [[exactly '2', between '0' '3'], [between '0' '1', isDecimal], [isDecimal]]
  | minute => [[between '0' '5', isDecimal], [isDecimal]]
  | second => [[exactly '6', between '0' '1'], [between '0' '5', isDecimal], [isDecimal]]
  | fraction => [6, 5, 4, 3, 2, 1].map fun n => List.replicate n isAsciiDigit
  | dayOfYear =>
    [[exactly '3', exactly '6', between '0' '6'], [exactly '3', between '0' '5', isDecimal],
     [between '1' '2', isDecimal, isDecimal], [exactly '0', between '1' '9', isDecimal],
     [exactly '0', exactly '0', between '1' '9'], [between '1' '9', isDecimal],
     [exactly '0', between '1' '9'], [between '1' '9']]
  | weekday => [[between '1' '7']]
  | weekdayFromSunday => [[between '0' '6']]
  | weekFromSunday | weekFromMonday =>
    [[exactly '5', between '0' '3'], [between '0' '4', isDecimal], [isDecimal]]
  | week =>
    [[exactly '5', between '0' '3'], [exactly '0', between '1' '9'], [between '1' '4', isDecimal],
     [isDecimal]]
  | offset => offsetShapes
  | d => (longestFirst d.names).map spelled

end Directive

/-- Whether a text begins with a shape. -/
def Directive.fits : Directive.Shape → List Char → Bool
  | [], _ => true
  | _ :: _, [] => false
  | p :: ps, c :: cs => p c && fits ps cs

end PayloadCheck.Time
