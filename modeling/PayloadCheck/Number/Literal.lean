import PayloadCheck.Number.Double
import PayloadCheck.Text.Blank
import PayloadCheck.Text.Property

/-!
# Numbers written as text

Two readings of a text: as a whole number (`wholeNumber?`) and as a double (`double?`). Both allow
blanks around the number, a sign, decimal digits of any script, and single underscores between
digits. A whole number of more than 4300 digits is refused, whatever its value.
-/

namespace PayloadCheck.Number

open PayloadCheck.Text

/-- The greatest number of digits that a whole number may have when it is read or written. -/
def maxDigits : Nat := 4300

/-- The values of digits that may have single underscores between them; at least one digit. -/
def digitValues? : List Char → Option (List Nat)
  | [] => none
  | [c] => (decimalValue? c).map fun d => [d]
  | c :: '_' :: rest =>
    match decimalValue? c, digitValues? rest with
    | some d, some ds => some (d :: ds)
    | _, _ => none
  | c :: rest =>
    match decimalValue? c, digitValues? rest with
    | some d, some ds => some (d :: ds)
    | _, _ => none

/-- The natural number that a sequence of digit values denotes. -/
def ofDigits (ds : List Nat) : Nat := ds.foldl (fun n d => 10 * n + d) 0

/-- Takes a sign off the front; `true` means minus. -/
def takeSign : List Char → Bool × List Char
  | '-' :: rest => (true, rest)
  | '+' :: rest => (false, rest)
  | cs => (false, cs)

/-- How a text fails to be a whole number. -/
inductive WholeFault where
  | notANumber
  | tooLong (digits : Nat)
deriving DecidableEq, Repr

/-- Reads a whole number. -/
def readWhole (text : String) : Except WholeFault Int :=
  let (negative, cs) := takeSign (trimChars text.toList)
  match digitValues? cs with
  | none => .error .notANumber
  | some ds =>
    if maxDigits < ds.length then .error (.tooLong ds.length)
    else .ok (Double.signed negative (ofDigits ds))

/-- Reads a whole number, if the text is one and not too long. -/
def wholeNumber? (text : String) : Option Int := (readWhole text).toOption

/-- Leading digits with their underscores, and what follows them. -/
def spanDigits (cs : List Char) : List Char × List Char :=
  cs.span fun c => c == '_' || isDecimal c

/-- Digits that may be missing altogether. -/
def optionalDigits? : List Char → Option (List Nat)
  | [] => some []
  | cs => digitValues? cs

/-- The exponent part of a number: nothing, or `e` and a whole number. -/
def exponent? : List Char → Option Int
  | [] => some 0
  | c :: rest =>
    if c = 'e' ∨ c = 'E' then
      let (negative, cs) := takeSign rest
      (digitValues? cs).map fun ds => Double.signed negative (ofDigits ds)
    else none

/-- Digits with an optional point and an optional exponent. -/
def decimalForm? (negative : Bool) (cs : List Char) : Option Double :=
  let (whole, rest) := spanDigits cs
  let (fraction, rest) := match rest with
    | '.' :: more => spanDigits more
    | _ => ([], rest)
  match optionalDigits? whole, optionalDigits? fraction, exponent? rest with
  | some a, some b, some e =>
    if a.isEmpty && b.isEmpty then none
    else some (.ofScientific negative (ofDigits (a ++ b)) (e - b.length))
  | _, _, _ => none

/-- Reads a double: digits with an optional point and exponent, or a name of infinity or of the
value that is not a number, in letters of either case. -/
def double? (text : String) : Option Double :=
  let (negative, cs) := takeSign (trimChars text.toList)
  let small := cs.map fun c => if isAsciiUpper c then Char.ofNat (c.toNat + 32) else c
  if small = "inf".toList ∨ small = "infinity".toList then some (.infinite negative)
  else if small = "nan".toList then some .nan
  else decimalForm? negative cs

end PayloadCheck.Number
