import PayloadCheck.Text.Blank
import PayloadCheck.Value.Path

/-!
# Presence, numbers and texts of values

How rules look at a value: whether it is present, whether it is numeric and which number it is,
its comparable text, and loose equality with another value.
-/

namespace PayloadCheck.Value

open PayloadCheck.Text PayloadCheck.Number

/-- Whether a field has a value: it has a name, and its value is neither missing, nor null, nor
blank, nor empty, nor an upload without a file. Zero and false are present. -/
def isPresent (v : Value) (field : String) : Bool :=
  !field.isEmpty &&
    match v with
    | absent | null => false
    | text s => !allBlank s
    | upload u => !u.path.isEmpty
    | bytes bs => !bs.isEmpty
    | list items | tuple items | set items => !items.isEmpty
    | map entries => !entries.isEmpty
    | _ => true

/-! ## Numeric texts -/

/-- What follows the digits of a number: nothing, or an exponent. -/
def isExponent : List Char → Bool
  | [] => true
  | c :: rest =>
    let digits := (takeSign rest).2
    (c == 'e' || c == 'E') && !digits.isEmpty && digits.all isAsciiDigit

/-- Digits with an optional point and an optional exponent. -/
def isNumericForm (cs : List Char) : Bool :=
  let whole := cs.takeWhile isAsciiDigit
  let rest := cs.dropWhile isAsciiDigit
  match rest with
  | '.' :: more =>
    let fraction := more.takeWhile isAsciiDigit
    (!whole.isEmpty || !fraction.isEmpty) && isExponent (more.dropWhile isAsciiDigit)
  | _ => !whole.isEmpty && isExponent rest

/-- A text without the plain blanks around it. -/
def trimAscii (cs : List Char) : List Char := dropEndWhile isAsciiBlank (cs.dropWhile isAsciiBlank)

/-- Whether a text is a number in plain digits, with blanks around it and a sign allowed. -/
def isNumericText (s : String) : Bool := isNumericForm (takeSign (trimAscii s.toList)).2

/-- Whether a text is a whole number in plain digits without superfluous zeros. -/
def isIntegerText (s : String) : Bool :=
  match (takeSign (trimAscii s.toList)).2 with
  | [] => false
  | ['0'] => true
  | c :: rest => c != '0' && (c :: rest).all isAsciiDigit

/-- Whether a value is a number or a numeric text. The truth values are no numbers. -/
def isNumeric : Value → Bool
  | int _ | double _ | decimal _ => true
  | text s => isNumericText s
  | _ => false

/-! ## Numbers and texts -/

/-- The number that a text denotes: a whole number if it can be read as one, a double otherwise. -/
def numberOfText (s : String) : Except Fault Number :=
  match wholeNumber? s with
  | some i => .ok (.whole i)
  | none =>
    match double? s with
    | some d => .ok (.double d)
    | none => .error (.badValue s!"could not convert string to float: {quoted (trim s)}")

/-- The number that a value is or denotes. -/
def toNumber : Value → Except Fault Number
  | int i => .ok (.whole i)
  | double d => .ok (.double d)
  | decimal d =>
    match d.toDouble? with
    | some x => .ok (.double x)
    | none => .error (.badValue "cannot convert signaling NaN to float")
  | v => do numberOfText (← v.plain)

/-- The text by which rules compare a value: empty for what is missing or false, `1` for true, and
a whole double without a fraction. -/
def comparable : Value → Except Fault String
  | absent | null => .ok ""
  | bool b => .ok (if b then "1" else "")
  | double d =>
    match d.isInteger, d.truncate? with
    | true, some i => intText? i
    | _, _ => .ok d.text
  | v => v.plain

/-- Truth of a submitted value: the texts `""` and `"0"` are false. -/
def looseTruth : Value → Bool
  | text s => s != "" && s != "0"
  | v => v.truth

/-- Whether a value is an integer or a double. -/
def isPlainNumber : Value → Bool
  | int _ | double _ => true
  | _ => false

/-- Loose equality: of truth where one side is a truth value, of numbers where both sides are
numeric, of texts where one side is a number, and of values otherwise. -/
def looseEquals (a b : Value) : Except Fault Bool :=
  match a, b with
  | bool _, _ | _, bool _ => .ok (a.looseTruth == b.looseTruth)
  | _, _ =>
    if a.isNumeric && b.isNumeric then do
      let x ← a.toNumber
      let y ← b.toNumber
      return x.same y
    else if a.isPlainNumber || b.isPlainNumber then do
      let x ← a.comparable
      let y ← b.comparable
      return x == y
    else .ok (a.same b)

end PayloadCheck.Value
