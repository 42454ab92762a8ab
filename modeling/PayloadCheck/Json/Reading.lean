import PayloadCheck.Number.Literal
import PayloadCheck.Text.CodeSet
import PayloadCheck.Value.Path

/-!
# Reading JSON

A text is read from the front, and every step gives what is left of it. A fault is found where some
number of characters is left; its line, column and index follow from that. Beyond the standard
there are the numbers `NaN`, `Infinity` and `-Infinity`.
-/

namespace PayloadCheck.Json

open PayloadCheck.Text PayloadCheck.Number

/-- What keeps a text from being read. -/
inductive Stop where
  /-- The text is not well formed where `left` characters are left. -/
  | malformed (what : String) (left : Nat)
  /-- A number is too long. -/
  | number (fault : OutsideFault)
deriving DecidableEq, Repr

/-- Ends a reading where some characters are left. -/
def stop {α : Type} (what : String) (left : Nat) : Except Stop α := .error (.malformed what left)

/-- A text without the blanks in front. -/
def dropBlanks (cs : List Char) : List Char :=
  cs.dropWhile fun c => c == ' ' || c == '\t' || c == '\n' || c == '\r'

/-! ## Texts -/

/-- The character that an escape of one letter stands for. -/
def escapeLetter? : Char → Option Char
  | '"' => some '"'
  | '\\' => some '\\'
  | '/' => some '/'
  | 'b' => some '\x08'
  | 'f' => some '\x0c'
  | 'n' => some '\n'
  | 'r' => some '\r'
  | 't' => some '\t'
  | _ => none

/-- Reads the four digits of a code. At least one character must follow them. -/
def readCode (cs : List Char) : Except Stop (Nat × List Char) :=
  let digits := cs.take 4
  if 4 < cs.length && digits.all fun c => (hexValue? c).isSome then
    .ok (readHex digits, cs.drop 4)
  else stop "Invalid \\uXXXX escape" (cs.length + 1)

/-- Whether a code is the first half of a pair. -/
def isFirstHalf (n : Nat) : Bool := 0xD800 ≤ n && n < 0xDC00

/-- Whether a code is the second half of a pair. -/
def isSecondHalf (n : Nat) : Bool := 0xDC00 ≤ n && n < 0xE000

/-- The code that two halves make. -/
def joinHalves (a b : Nat) : Nat := 0x10000 + (a - 0xD800) * 0x400 + (b - 0xDC00)

/-- Reads a code, or two that make one character. -/
def readCodes (cs : List Char) : Except Stop (Nat × List Char) := do
  let (a, rest) ← readCode cs
  match rest with
  | '\\' :: 'u' :: more =>
    if isFirstHalf a && 4 < more.length then
      let (b, last) ← readCode more
      return if isSecondHalf b then (joinHalves a b, last) else (a, rest)
    else return (a, rest)
  | _ => return (a, rest)

/-- Reads the inside of a text after its opening quote, where `start` characters are left from the
quote on. Every step reads a character at least. -/
def readChars (start : Nat) : (steps : Nat) → List Char → Except Stop (List Char × List Char)
  | 0, _ => stop "Unterminated string starting at" start
  | _, [] => stop "Unterminated string starting at" start
  | steps + 1, c :: rest =>
    if c == '"' then .ok ([], rest)
    else if c == '\\' then
      match rest with
      | [] => stop "Unterminated string starting at" start
      | e :: more =>
        if e == 'u' then do
          let (code, more) ← readCodes more
          let (text, last) ← readChars start steps more
          return (Char.ofNat code :: text, last)
        else match escapeLetter? e with
          | some d => do
            let (text, last) ← readChars start steps more
            return (d :: text, last)
          | none => stop "Invalid \\escape" (rest.length + 1)
    else if c.toNat < 32 then stop "Invalid control character at" (rest.length + 1)
    else do
      let (text, last) ← readChars start steps rest
      return (c :: text, last)

/-- Reads a text after its opening quote. -/
def readText (cs : List Char) : Except Stop (String × List Char) := do
  let (text, rest) ← readChars (cs.length + 1) (cs.length + 1) cs
  return (String.ofList text, rest)

/-! ## Numbers -/

/-- The parts of a number: sign and digits, a fraction with its point, an exponent. -/
structure Numeral where
  whole : List Char
  fraction : List Char
  exponent : List Char

/-- The fraction at the beginning of a text: a point and digits. -/
def takeFraction : List Char → List Char × List Char
  | '.' :: rest =>
    let digits := rest.takeWhile isAsciiDigit
    if digits.isEmpty then ([], '.' :: rest) else ('.' :: digits, rest.dropWhile isAsciiDigit)
  | cs => ([], cs)

/-- The exponent at the beginning of a text: a letter, a sign that may be missing, and digits. -/
def takeExponent (cs : List Char) : List Char × List Char :=
  match cs with
  | [] => ([], [])
  | e :: rest =>
    let sign := rest.take 1 |>.filter fun c => c == '-' || c == '+'
    let more := rest.drop sign.length
    let digits := more.takeWhile isAsciiDigit
    if (e == 'e' || e == 'E') && !digits.isEmpty then
      (e :: sign ++ digits, more.dropWhile isAsciiDigit)
    else ([], cs)

/-- The number at the beginning of a text, if there is one. A first digit zero stands alone. -/
def takeNumeral? (cs : List Char) : Option (Numeral × List Char) :=
  let sign := cs.take 1 |>.filter (· == '-')
  let rest := cs.drop sign.length
  let digits := match rest with
    | '0' :: _ => ['0']
    | _ => rest.takeWhile isAsciiDigit
  if digits.isEmpty then none
  else
    let (fraction, rest) := takeFraction (rest.drop digits.length)
    let (exponent, rest) := takeExponent rest
    some (⟨sign ++ digits, fraction, exponent⟩, rest)

/-- The value of a number: whole if it has neither a fraction nor an exponent. -/
def Numeral.value (n : Numeral) : Except Stop Value :=
  if n.fraction.isEmpty && n.exponent.isEmpty then
    match h : Value.integerOf (String.ofList n.whole) with
    | .ok i => .ok (.int i)
    | .error fault => .error (.number ⟨fault, Value.integerOf_fault h⟩)
  else .ok (.double ((double? (String.ofList (n.whole ++ n.fraction ++ n.exponent))).getD .nan))

/-! ## Values -/

/-- The words that stand for values. -/
def words : List (String × Value) :=
  [("null", .null), ("true", .bool true), ("false", .bool false), ("NaN", .double .nan),
   ("Infinity", .double (.infinite false)), ("-Infinity", .double (.infinite true))]

/-- The word at the beginning of a text, if there is one. -/
def takeWord? (cs : List Char) : Option (Value × List Char) :=
  words.findSome? fun (w, v) =>
    if w.toList.isPrefixOf cs then some (v, cs.drop w.length) else none

mutual

/-- Reads a value. -/
def readValue : (steps : Nat) → List Char → Except Stop (Value × List Char)
  | 0, cs => stop "Expecting value" cs.length
  | steps + 1, cs =>
    match cs with
    | '"' :: rest => do
      let (text, rest) ← readText rest
      return (.text text, rest)
    | '{' :: rest =>
      match dropBlanks rest with
      | '}' :: rest => .ok (.map [], rest)
      | rest => do
        let (entries, rest) ← readEntries steps rest
        return (Value.mapOf entries, rest)
    | '[' :: rest =>
      match dropBlanks rest with
      | ']' :: rest => .ok (.list [], rest)
      | rest => do
        let (items, rest) ← readItems steps rest
        return (.list items, rest)
    | cs =>
      match takeWord? cs with
      | some (v, rest) => .ok (v, rest)
      | none =>
        match takeNumeral? cs with
        | some (n, rest) => do return (← n.value, rest)
        | none => stop "Expecting value" cs.length

/-- Reads the entries of an object up to its closing brace. -/
def readEntries : (steps : Nat) → List Char → Except Stop (List (Value × Value) × List Char)
  | 0, cs => stop "Expecting property name enclosed in double quotes" cs.length
  | steps + 1, cs =>
    match cs with
    | '"' :: rest => do
      let (key, rest) ← readText rest
      match dropBlanks rest with
      | ':' :: rest =>
        let (v, rest) ← readValue steps (dropBlanks rest)
        match dropBlanks rest with
        | '}' :: rest => return ([(.text key, v)], rest)
        | ',' :: rest =>
          let (entries, rest) ← readEntries steps (dropBlanks rest)
          return ((.text key, v) :: entries, rest)
        | rest => stop "Expecting ',' delimiter" rest.length
      | rest => stop "Expecting ':' delimiter" rest.length
    | _ => stop "Expecting property name enclosed in double quotes" cs.length

/-- Reads the items of an array up to its closing bracket. -/
def readItems : (steps : Nat) → List Char → Except Stop (List Value × List Char)
  | 0, cs => stop "Expecting value" cs.length
  | steps + 1, cs => do
    let (v, rest) ← readValue steps cs
    match dropBlanks rest with
    | ']' :: rest => return ([v], rest)
    | ',' :: rest =>
      let (items, rest) ← readItems steps (dropBlanks rest)
      return (v :: items, rest)
    | rest => stop "Expecting ',' delimiter" rest.length

end

/-- Reads a whole text. -/
def readAll (cs : List Char) : Except Stop Value := do
  if cs.head? == some '\uFEFF' then stop "Unexpected UTF-8 BOM (decode using utf-8-sig)" cs.length
  else
    let (v, rest) ← readValue (cs.length + 1) (dropBlanks cs)
    let rest := dropBlanks rest
    if rest.isEmpty then return v else stop "Extra data" rest.length

/-- Where something is found: what is wrong, with line and column counted from one and the index
from zero. -/
def located (cs : List Char) (what : String) (left : Nat) : String :=
  let before := cs.take (cs.length - left)
  let line := before.count '\n' + 1
  let column := (before.reverse.takeWhile (· != '\n')).length + 1
  s!"{what}: line {natText line} column {natText column} (char {natText before.length})"

/-- What keeps a text from being a value, in words or as the fault of a number. -/
inductive ReadFault where
  | malformed (detail : String)
  | number (fault : OutsideFault)
deriving DecidableEq, Repr

/-- Reads a text as a value. -/
def read (s : String) : Except ReadFault Value :=
  match readAll s.toList with
  | .ok v => .ok v
  | .error (.malformed what left) => .error (.malformed (located s.toList what left))
  | .error (.number fault) => .error (.number fault)

end PayloadCheck.Json
