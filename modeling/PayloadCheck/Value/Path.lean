import PayloadCheck.Value.Printer

/-!
# Paths into nested values

A path is a text of segments separated by points. A segment names an entry of a map, or the place
of an item in a list or tuple, counted from the end where it is negative. Where a segment leads
nowhere the value is absent.
-/

namespace PayloadCheck

/-- The whole number in a double, its fractional part cut off. -/
def Double.truncated (d : Double) : Except Fault Int :=
  match d with
  | .nan => .error (.badValue "cannot convert float NaN to integer")
  | .infinite _ => .error (.outOfRange "cannot convert float infinity to integer")
  | .finite .. => .ok (d.truncate?.getD 0)

/-- The whole number in a number. -/
def Number.truncated : Number → Except Fault Int
  | .whole i => .ok i
  | .double d => d.truncated

theorem Double.truncated_fault {d : Double} {fault : Fault} (h : d.truncated = .error fault) :
    fault.isOwn = false := by
  cases d with
  | nan => cases h; rfl
  | infinite negative => cases h; rfl
  | finite negative mantissa exponent => cases h

theorem Number.truncated_fault {n : Number} {fault : Fault} (h : n.truncated = .error fault) :
    fault.isOwn = false := by
  cases n with
  | whole i => cases h
  | double d => exact Double.truncated_fault h

namespace Value

open PayloadCheck.Text PayloadCheck.Number

/-- The fault of a text that is no whole number. -/
def notAnInteger (text : String) : Fault :=
  let shown := String.ofList ((quoted text).toList.take 200)
  .badValue s!"invalid literal for int() with base 10: {shown}"

/-- The fault of a text with too many digits. -/
def tooLongInteger (digits : Nat) : Fault :=
  .badValue s!"Exceeds the limit (4300 digits) for integer string conversion: value has {natText digits} digits; use sys.set_int_max_str_digits() to increase the limit"

/-- The whole number that a text denotes. -/
def integerOf (text : String) : Except Fault Int :=
  match readWhole text with
  | .ok i => .ok i
  | .error .notANumber => .error (notAnInteger text)
  | .error (.tooLong n) => .error (tooLongInteger n)

theorem integerOf_fault {text : String} {fault : Fault} (h : integerOf text = .error fault) :
    fault.isOwn = false := by
  unfold integerOf at h
  split at h
  · cases h
  · cases h; rfl
  · cases h; rfl

/-- Whether a segment is written like a place in a list: digits after any number of minus
signs. -/
def isPlace (segment : List Char) : Bool :=
  let digits := segment.dropWhile (· == '-')
  !digits.isEmpty && digits.all isDigit

/-- The item at a place, counted from the end where it is negative. -/
def itemAt? (items : List Value) (place : Int) : Option Value :=
  if 0 ≤ place then items[place.toNat]?
  else if place.natAbs ≤ items.length then items[items.length - place.natAbs]? else none

/-- The value that one segment leads to. -/
def follow (segment : String) : Value → Except Fault Value
  | map entries => .ok ((field? segment entries).getD absent)
  | list items | tuple items => do
    if isPlace segment.toList then
      return (itemAt? items (← integerOf segment)).getD absent
    else return absent
  | _ => .ok absent

/-- Follows segments one after the other. Once a value is absent it stays so. -/
def followAll : List String → Value → Except Fault Value
  | [], v => .ok v
  | segment :: rest, v => do
    match ← follow segment v with
    | absent => return absent
    | w => followAll rest w

/-- The value at a path. In a map the whole path is tried as one key first. -/
def get (source : Value) (path : String) : Except Fault Value :=
  match source with
  | map entries =>
    match field? path entries with
    | some v => .ok v
    | none => followAll (split '.' path) source
  | _ => followAll (split '.' path) source

end Value

end PayloadCheck
