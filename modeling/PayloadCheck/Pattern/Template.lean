import PayloadCheck.Pattern.Expression
import PayloadCheck.Rule.Name

/-!
# Templates

A template says what a match is replaced by. A backslash with a number, or with `g` and a number
in angle brackets, stands for what a group has matched, number 0 for the whole match; with octal
digits or with some letters it stands for one character.
-/

namespace PayloadCheck.Pattern

open PayloadCheck.Text PayloadCheck.Number PayloadCheck.Rule
open Step

/-- A part of a template. -/
inductive Part where
  | text (cs : List Char)
  | group (number : Nat)
deriving DecidableEq, Repr

namespace Part

/-- A step of reading a template, which may end with a fault of its own. -/
abbrev TemplateStep := ExceptT Fault Step

/-- A group, if there are so many; a fault lies `back` characters before the next token. -/
def ofNumber (groups number back : Nat) : Step Part := do
  if groups < number then refuse s!"invalid group reference {natText number}" back
  return .group number

/-- Reads a group in angle brackets. No group has a name. -/
def readBracketed (groups : Nat) : TemplateStep Part := do
  if !(← takeIf '<') then refuse "missing <"
  let name ← takeName '>' "group name"
  let shown := quoted (String.ofList name)
  if isName name then throw (.noPart s!"unknown group name {shown}")
  match readWhole (String.ofList name) with
  | .ok (.ofNat number) => ofNumber groups number (name.length + 1)
  | _ => refuse s!"bad character in group name {shown}" (name.length + 1)

/-- Reads a part that begins with a digit: a character in octal, or a group. -/
def readNumber (groups : Nat) (first : Char) : Step Part := do
  if first = '0' then
    return .text [Char.ofNat (readOctal (← Step.takeWhile isOctal 2))]
  let second ← Step.takeWhile isAsciiDigit 1
  if isOctal first && !second.isEmpty && second.all isOctal then
    let third ← Step.takeWhile isOctal 1
    if !third.isEmpty then return .text [Char.ofNat (← octalCode (first :: second ++ third))]
  ofNumber groups (readDecimal (first :: second)) (second.length + 1)

/-- Reads a part; `t` is its first token. -/
def readFrom (groups : Nat) (t : Token) : TemplateStep Part := do
  match t with
  | .plain c => return .text [c]
  | .escaped c =>
    if c = 'g' then readBracketed groups
    else if isAsciiDigit c then readNumber groups c
    else if let some code := controlEscapes.lookup c then return .text [Char.ofNat code]
    else if isAsciiLetter c then badEscape [c]
    else return .text ['\\', c]

/-- Reads parts, at most as many as there are steps. -/
def readSteps (groups : Nat) : (steps : Nat) → TemplateStep (List Part)
  | 0 => return []
  | steps + 1 => do
    match ← take with
    | none => return []
    | some t =>
      let part ← readFrom groups t
      return part :: (← readSteps groups steps)

/-- What a part stands for, given what the groups have matched. -/
def expand (matched : Nat → List Char) : Part → List Char
  | text cs => cs
  | group number => matched number

end Part

/-- Reads a template for a pattern with the given number of groups. -/
def readTemplate (groups : Nat) (cs : List Char) : Except Fault (List Part) :=
  let read : Except Problem (Except Fault (List Part)) := do
    let source ← Source.ofChars cs
    return (← (Part.readSteps groups cs.length).run.run { source }).1
  match read with
  | .ok parts => parts
  | .error (.beyond excess) => .error excess.fault
  | .error (.malformed detail place) => .error (.pattern (placed cs detail place))

/-- A name with its words separated, in small letters. The separator is written as a template, in
which the only group is the character before it. -/
def separatedBy (separator name : String) : Except Fault String := do
  if isLowerText name then return name
  let parts ← readTemplate 1 ('\\' :: '1' :: separator.toList)
  let replaced := replaceBeforeCapitals (fun c => parts.flatMap (Part.expand fun _ => [c]))
    name.toList
  return lower (String.ofList replaced)

end PayloadCheck.Pattern
