import PayloadCheck.Number.Literal
import PayloadCheck.Text.Pieces
import PayloadCheck.Text.Property

/-!
# Tags

A tag tells the kind of a node. Texts without quotes and without a tag get one by their form:
words for nothing and for truth values, numbers to several bases and with parts of sixty, days and
moments; all others are texts.
-/

namespace PayloadCheck.Yaml

open PayloadCheck.Text PayloadCheck.Number

/-- The kind of a node. -/
inductive Tag where
  | null
  | bool
  | int
  | float
  | text
  | binary
  | timestamp
  | merge
  | value
  | list
  | map
  | set
  | orderedMap
  | pairs
  | other (name : String)
deriving DecidableEq, Repr

namespace Tag

/-- What the names of the standard tags begin with. -/
def standard : String := "tag:yaml.org,2002:"

/-- The standard tags by the ends of their names. -/
def byName : List (String × Tag) :=
  [("null", null), ("bool", bool), ("int", int), ("float", float), ("str", text),
   ("binary", binary), ("timestamp", timestamp), ("merge", merge), ("value", value),
   ("seq", list), ("map", map), ("set", set), ("omap", orderedMap), ("pairs", pairs)]

/-- The tag of a name. -/
def ofName (name : String) : Tag :=
  ((byName.map fun (n, t) => (standard ++ n, t)).lookup name).getD (other name)

/-! ## Forms of plain texts -/

/-- Digits and underscores. -/
def isDigitOrGap (c : Char) : Bool := isAsciiDigit c || c == '_'

/-- The words for truth values. -/
def boolWords : List (String × Bool) :=
  [("yes", true), ("no", false), ("true", true), ("false", false), ("on", true), ("off", false)]

/-- A word in small letters, with a capital beginning, or in capitals. -/
def inThreeCases (word : String) : List String :=
  [word, String.ofList (match word.toList with
    | [] => []
    | c :: rest => c.toUpper :: rest), word.toUpper]

/-- Words for truth values. -/
def isBool (s : String) : Bool := boolWords.any fun (w, _) => (inThreeCases w).contains s

/-- Words for nothing, and the empty text. -/
def isNull (s : String) : Bool := s == "" || s == "~" || (inThreeCases "null").contains s

/-- Digits with underscores after the first. -/
def isNumeral : List Char → Bool
  | [] => false
  | c :: rest => isAsciiDigit c && rest.all isDigitOrGap

/-- A numeral that does not begin with zero. -/
def isPositive (cs : List Char) : Bool := isNumeral cs && cs.head? != some '0'

/-- A part below sixty. -/
def isSixtieth : List Char → Bool
  | [a] => isAsciiDigit a
  | [a, b] => '0' ≤ a && a ≤ '5' && isAsciiDigit b
  | _ => false

/-- Parts of sixty behind a first part, separated by colons. -/
def isSexagesimal (first : List Char → Bool) (cs : List Char) : Bool :=
  match pieces ':' cs with
  | a :: b :: rest => first a && (b :: rest).all isSixtieth
  | _ => false

/-- Whole numbers: to the bases two, eight, ten and sixteen, or with parts of sixty. -/
def isInt (cs : List Char) : Bool :=
  match (takeSign cs).2 with
  | ['0'] => true
  | '0' :: 'b' :: rest => !rest.isEmpty && rest.all fun c => c == '0' || c == '1' || c == '_'
  | '0' :: 'x' :: rest =>
    !rest.isEmpty && rest.all fun c =>
      isDigitOrGap c || ('a' ≤ c && c ≤ 'f') || ('A' ≤ c && c ≤ 'F')
  | '0' :: rest => rest.all fun c => ('0' ≤ c && c ≤ '7') || c == '_'
  | digits => isPositive digits || isSexagesimal isPositive digits

/-- An exponent, with its sign, or nothing. -/
def isExponent : List Char → Bool
  | [] => true
  | e :: sign :: digits =>
    (e == 'e' || e == 'E') && (sign == '-' || sign == '+') && !digits.isEmpty &&
      digits.all isAsciiDigit
  | _ => false

/-- What may stand behind a point: digits, and an exponent. -/
def isFraction (cs : List Char) : Bool := isExponent (cs.dropWhile isDigitOrGap)

/-- Numbers with a point, infinity, and the value that is not a number. -/
def isFloat (cs : List Char) : Bool :=
  let unsigned := (takeSign cs).2
  if unsigned = ".inf".toList ∨ unsigned = ".Inf".toList ∨ unsigned = ".INF".toList then true
  else if cs = ".nan".toList ∨ cs = ".NaN".toList ∨ cs = ".NAN".toList then true
  else match cut? '.' unsigned with
    | some ([], fraction) =>
      cs.head? == some '.' && fraction.head?.any isAsciiDigit && isFraction fraction
    | some (before, fraction) =>
      (isNumeral before && isFraction fraction) ||
        (isSexagesimal isNumeral before && fraction.all isDigitOrGap)
    | none => false

end Tag

/-! ## Days and moments -/

/-- A time zone as it is written. -/
inductive Zone where
  | universal
  | offset (negative : Bool) (hours minutes : Nat)
deriving DecidableEq, Repr

/-- A time of day as it is written. -/
structure Clock where
  hour : Nat
  minute : Nat
  second : Nat
  fraction : List Char
  zone : Option Zone
deriving DecidableEq, Repr

/-- A day, or a day and a time, as they are written. Neither need exist. -/
structure Stamp where
  year : Nat
  month : Nat
  day : Nat
  clock : Option Clock
deriving DecidableEq, Repr

namespace Stamp

/-- Takes as many digits as there are, at most `most`, and at least `least` of them. -/
def digits? (least most : Nat) (cs : List Char) : Option (Nat × List Char) :=
  let taken := (cs.take most).takeWhile isAsciiDigit
  if least ≤ taken.length then
    some (ofDigits (taken.map fun c => c.toNat - 48), cs.drop taken.length)
  else none

/-- Takes one character. -/
def sign? (c : Char) : List Char → Option (List Char)
  | [] => none
  | d :: rest => if d = c then some rest else none

/-- Reads a time zone that ends the text. -/
def zone? (cs : List Char) : Option Zone :=
  match cs with
  | ['Z'] => some .universal
  | c :: rest => do
    if c != '+' && c != '-' then none else
    let (hours, rest) ← digits? 1 2 rest
    match rest with
    | [] => some (.offset (c == '-') hours 0)
    | ':' :: rest =>
      let (minutes, rest) ← digits? 2 2 rest
      if rest.isEmpty then some (.offset (c == '-') hours minutes) else none
    | _ => none
  | [] => none

/-- Reads a time of day that ends the text. -/
def clock? (cs : List Char) : Option Clock := do
  let (hour, rest) ← digits? 1 2 cs
  let (minute, rest) ← digits? 2 2 (← sign? ':' rest)
  let (second, rest) ← digits? 2 2 (← sign? ':' rest)
  let (fraction, rest) := match rest with
    | '.' :: more => (more.takeWhile isAsciiDigit, more.dropWhile isAsciiDigit)
    | _ => ([], rest)
  if rest.isEmpty then return ⟨hour, minute, second, fraction, none⟩
  else return ⟨hour, minute, second, fraction,
    some (← zone? (rest.dropWhile fun c => c == ' ' || c == '\t'))⟩

/-- Reads a day, or a day and a time. -/
def read? (cs : List Char) : Option Stamp := do
  let (year, rest) ← digits? 4 4 cs
  let (month, rest) ← digits? 1 2 (← sign? '-' rest)
  let (day, rest) ← digits? 1 2 (← sign? '-' rest)
  match rest with
  | [] => return ⟨year, month, day, none⟩
  | c :: more =>
    if c == 'T' || c == 't' then return ⟨year, month, day, some (← clock? more)⟩
    else if c == ' ' || c == '\t' then
      return ⟨year, month, day, some (← clock? (more.dropWhile fun c => c == ' ' || c == '\t'))⟩
    else none

/-- Days and moments that need no tag: a day alone has two digits for month and day. -/
def isPlain (cs : List Char) : Bool :=
  match read? cs with
  | some s => s.clock.isSome || cs.length == 10
  | none => false

end Stamp

/-- The tag that a text without quotes has by its form. -/
def Tag.ofPlain (s : String) : Tag :=
  if isBool s then bool
  else if isFloat s.toList then float
  else if isInt s.toList then int
  else if s == "<<" then merge
  else if isNull s then null
  else if Stamp.isPlain s.toList then timestamp
  else if s == "=" then value
  else text

end PayloadCheck.Yaml
