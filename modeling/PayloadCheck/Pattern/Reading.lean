import PayloadCheck.Number.Literal
import PayloadCheck.Pattern.Source
import PayloadCheck.Pattern.Syntax
import PayloadCheck.Text.CharName
import PayloadCheck.Text.Name
import PayloadCheck.Text.Quoted

/-!
# Reading the small parts of a pattern

What has been learnt of a pattern while it is read (groups, their names and widths, options), and
the parts that contain no other pattern: escapes, sets of characters, repetition counts, names and
options.
-/

namespace PayloadCheck.Pattern

open PayloadCheck.Text PayloadCheck.Number

/-- What is known of a pattern while it is read. `widths` has an entry for the whole pattern and
for every group; a group has a width once it is closed. `sealedFrom` is set while a pattern that
looks behind is read: groups from that number on cannot be referred to. `conditions` lists the
numbers that conditions name, with their places. -/
structure Reading where
  source : Source
  widths : List (Option Width) := [none]
  names : List (String × Nat) := []
  sealedFrom : Option Nat := none
  conditions : List (Nat × Nat) := []
  switched : List Char := []
deriving DecidableEq, Repr, Inhabited

/-- A step of reading a pattern. -/
abbrev Step := StateT Reading (Except Problem)

namespace Step

/-- The next token. -/
def peek : Step (Option Token) := do return (← get).source.next

/-- The place of the next token. -/
def place : Step Nat := do return (← get).source.place

/-- Refuses the pattern; the fault lies `back` characters before the next token. -/
def refuse {α : Type} (detail : String) (back : Nat := 0) : Step α := do
  throw (.malformed detail (some ((← place) - back)))

/-- Takes the next token. -/
def take : Step (Option Token) := do
  let r ← get
  let source ← r.source.advance
  set { r with source }
  return r.source.next

/-- Takes the next token if it is the given character. -/
def takeIf (c : Char) : Step Bool := do
  if (← peek) = some (.plain c) then
    let _ ← take
    return true
  return false

/-- Takes up to `n` characters that satisfy `p`. -/
def takeWhile (p : Char → Bool) : Nat → Step (List Char)
  | 0 => return []
  | n + 1 => do
    match ← peek with
    | some (.plain c) =>
      if p c then
        let _ ← take
        return c :: (← takeWhile p n)
      return []
    | _ => return []

/-- The number of characters that are left. -/
def remaining : Step Nat := do return (← get).source.remaining

/-- Takes everything up to a closing character; `taken` is what was taken already. -/
def takeUntil (closing : Char) (what : String) : Nat → List Char → Step (List Char)
  | 0, taken => return taken
  | n + 1, taken => do
    match ← take with
    | none =>
      if taken.isEmpty then refuse s!"missing {what}"
      refuse s!"missing {String.singleton closing}, unterminated name" taken.length
    | some t =>
      if t = .plain closing then
        if taken.isEmpty then refuse s!"missing {what}" 1
        return taken
      takeUntil closing what n (taken ++ t.chars)

/-- Takes a name up to a closing character. -/
def takeName (closing : Char) (what : String) : Step (List Char) := do
  takeUntil closing what ((← remaining) + 1) []

/-- Passes over everything up to and with a character. Tells whether it was met. -/
def skipPast (c : Char) : Nat → Step Bool
  | 0 => return false
  | n + 1 => do
    match ← take with
    | none => return false
    | some t => if t = .plain c then return true else skipPast c n

end Step

open Step

/-! ## Groups -/

/-- The number of groups so far, the whole pattern counted in. -/
def groupCount : Step Nat := do return (← get).widths.length

/-- The width of a group, if it is closed. -/
def closedWidth? (number : Nat) : Step (Option Width) := do
  return ((← get).widths[number]?).join

/-- While a pattern that looks behind is read, only groups closed before it can be referred to. -/
def checkSeal (number : Nat) : Step Unit := do
  match (← get).sealedFrom with
  | none => return
  | some first =>
    if (← closedWidth? number).isNone then refuse "cannot refer to an open group"
    if first ≤ number then
      refuse "cannot refer to group defined in the same lookbehind subpattern"

/-- A reference to a group that is closed; `back` is where a fault lies. -/
def reference (number back : Nat) : Step Pattern := do
  match ← closedWidth? number with
  | none => refuse "cannot refer to an open group" back
  | some width =>
    checkSeal number
    return .again number width

/-- Opens a group, perhaps with a name, and gives its number. -/
def openGroup (name : Option String) : Step Nat := do
  let r ← get
  let number := r.widths.length
  match name with
  | none =>
    set { r with widths := r.widths ++ [none] }
    return number
  | some n =>
    match r.names.lookup n with
    | some earlier =>
      let detail := s!"redefinition of group name {quoted n} as group {natText number}; " ++
        s!"was group {natText earlier}"
      refuse detail (n.length + 1)
    | none =>
      set { r with widths := r.widths ++ [none], names := r.names ++ [(n, number)] }
      return number

/-- Closes a group. -/
def closeGroup (number : Nat) (body : Pattern) : Step Unit :=
  modify fun r => { r with widths := r.widths.set number (some (.ofPattern body)) }

/-- Checks the name of a group, which stands before the last character taken. -/
def checkName (name : List Char) : Step Unit := do
  if !isName name then
    refuse s!"bad character in group name {quoted (String.ofList name)}" (name.length + 1)

/-- The number of a named group; the name stands before the last character taken. -/
def numberOfName (name : List Char) : Step Nat := do
  match (← get).names.lookup (String.ofList name) with
  | some number => return number
  | none => refuse s!"unknown group name {quoted (String.ofList name)}" (name.length + 1)

/-- The greatest number of groups. -/
def groupLimit : Nat := 1073741823

/-- The group that a condition names. A number may name a group that comes later. -/
def conditionGroup : Step Nat := do
  let name ← takeName ')' "group name"
  let back := name.length + 1
  if isName name then numberOfName name
  else
    match readWhole (String.ofList name) with
    | .ok (.ofNat number) =>
      if number = 0 then refuse "bad group number" back
      if groupLimit ≤ number then refuse s!"invalid group reference {natText number}" back
      let place ← place
      modify fun r =>
        if (r.conditions.lookup number).isSome then r
        else { r with conditions := r.conditions ++ [(number, place - back)] }
      return number
    | _ => refuse s!"bad character in group name {quoted (String.ofList name)}" back

/-! ## Escapes -/

/-- What an escape stands for. -/
inductive Escape where
  | one (code : Nat)
  | cls (c : CharClass) (negated : Bool)
  | anchor (a : Anchor)
  | again (p : Pattern)

/-- Octal digits. -/
def isOctal (c : Char) : Bool := '0' ≤ c && c ≤ '7'

/-- Hexadecimal digits. -/
def isHex (c : Char) : Bool := (hexValue? c).isSome

/-- The number written by octal digits. -/
def readOctal (cs : List Char) : Nat := cs.foldl (fun n c => 8 * n + (c.toNat - 48)) 0

/-- The number written by decimal digits. -/
def readDecimal (cs : List Char) : Nat := cs.foldl (fun n c => 10 * n + (c.toNat - 48)) 0

/-- The characters that have an escape of their own. -/
def controlEscapes : List (Char × Nat) :=
  [('a', 7), ('b', 8), ('f', 12), ('n', 10), ('r', 13), ('t', 9), ('v', 11), ('\\', 92)]

/-- The classes of characters that have an escape. -/
def classEscapes : List (Char × CharClass × Bool) :=
  [('d', .digit, false), ('D', .digit, true), ('s', .blank, false), ('S', .blank, true),
   ('w', .word, false), ('W', .word, true)]

/-- The anchors that have an escape. -/
def anchorEscapes : List (Char × Anchor) :=
  [('A', .textStart), ('b', .boundary), ('B', .notBoundary), ('Z', .textEnd)]

/-- Refuses an escape that has no meaning; `written` follows the backslash. -/
def badEscape {α : Type} (written : List Char) : Step α :=
  refuse ("bad escape \\" ++ String.ofList written) (written.length + 1)

/-- A code point written by a fixed number of hexadecimal digits. -/
def readHexEscape (letter : Char) (digits : Nat) : Step Nat := do
  let written ← Step.takeWhile isHex digits
  if written.length ≠ digits then
    refuse ("incomplete escape \\" ++ String.ofList (letter :: written)) (written.length + 2)
  let code := readHex written
  if 0x110000 ≤ code then badEscape (letter :: written)
  return code

/-- A code point written by its name. -/
def readNameEscape : Step Nat := do
  if !(← takeIf '\x7b') then refuse "missing \x7b"
  let name ← takeName '\x7d' "character name"
  match charNamed? (String.ofList name) with
  | some code => return code
  | none => refuse s!"undefined character name {quoted (String.ofList name)}" (name.length + 4)

/-- A code point written by up to three octal digits. -/
def octalCode (digits : List Char) : Step Nat := do
  let code := readOctal digits
  if 0o377 < code then
    refuse ("octal escape value \\" ++ String.ofList digits ++ " outside of range 0-0o377")
      (digits.length + 1)
  return code

/-- A code point written by a letter and digits or a name, if the letter asks for them. -/
def readCode? (c : Char) : Step (Option Nat) := do
  match c with
  | 'x' => return some (← readHexEscape c 2)
  | 'u' => return some (← readHexEscape c 4)
  | 'U' => return some (← readHexEscape c 8)
  | 'N' => return some (← readNameEscape)
  | _ => return none

/-- An escape that begins with a digit: a code point in octal or a reference to a group. -/
def readDigitEscape (first : Char) : Step Escape := do
  if first = '0' then
    return .one (readOctal (← Step.takeWhile isOctal 2))
  let second ← Step.takeWhile isAsciiDigit 1
  if isOctal first && !second.isEmpty && second.all isOctal then
    let third ← Step.takeWhile isOctal 1
    if !third.isEmpty then return .one (← octalCode (first :: second ++ third))
  let number := readDecimal (first :: second)
  let length := second.length + 2
  if number < (← groupCount) then return .again (← reference number length)
  refuse s!"invalid group reference {natText number}" (length - 1)

/-- An escape outside sets; `c` follows the backslash. -/
def readEscape (c : Char) : Step Escape := do
  if let some a := anchorEscapes.lookup c then return .anchor a
  if let some (k, negated) := classEscapes.lookup c then return .cls k negated
  if let some code := controlEscapes.lookup c then return .one code
  if let some code ← readCode? c then return .one code
  if isAsciiDigit c then return ← readDigitEscape c
  if isAsciiLetter c then badEscape [c]
  return .one c.toNat

/-- An escape within sets. -/
def readMemberEscape (c : Char) : Step Member := do
  if let some code := controlEscapes.lookup c then return .one code
  if let some (k, negated) := classEscapes.lookup c then return .cls k negated
  if let some code ← readCode? c then return .one code
  if isOctal c then return .one (← octalCode (c :: (← Step.takeWhile isOctal 2)))
  if isAsciiDigit c || isAsciiLetter c then badEscape [c]
  return .one c.toNat

/-! ## Sets -/

/-- A member of a set as one token begins it. -/
def readMember : Token → Step Member
  | .escaped c => readMemberEscape c
  | .plain c => return .one c.toNat

/-- A range between two members, which were written as the given tokens. -/
def rangeOf (first last : Member) (this that : Token) : Step Member := do
  let bad : Step Member :=
    refuse ("bad character range " ++ this.text ++ "-" ++ that.text) (this.length + 1 + that.length)
  match first, last with
  | .one lo, .one hi => if hi < lo then bad else return .range lo hi
  | _, _ => bad

/-- Refuses a set without an end; it began at `start`. -/
def openSet {α : Type} (start : Nat) : Step α := do
  refuse "unterminated character set" ((← place) - start)

/-- The members of a set up to its end. A closing bracket that comes first is a member, and so is
a hyphen that comes last. -/
def readMembers (start : Nat) : Nat → List Member → Step (List Member)
  | 0, members => return members
  | n + 1, members => do
    match ← take with
    | none => openSet start
    | some this =>
      if this = .plain ']' && !members.isEmpty then return members
      let first ← readMember this
      if ← takeIf '-' then
        match ← take with
        | none => openSet start
        | some that =>
          if that = .plain ']' then return members ++ [first, .one 45]
          let last ← readMember that
          readMembers start n (members ++ [← rangeOf first last this that])
      else readMembers start n (members ++ [first])

/-- A set, after its opening bracket. -/
def readSet : Step Pattern := do
  let start := (← place) - 1
  let negated ← takeIf '^'
  let members ← readMembers start ((← remaining) + 1) []
  match members.eraseDups with
  | [.one code] => return .char (if negated then .notOne code else .one code)
  | distinct => return .char (.among negated distinct)

/-! ## Repetition counts -/

/-- The number of rounds from which on there is no limit. -/
def roundLimit : Nat := 4294967295

/-- A number of rounds. -/
def roundsOf (digits : List Char) : Step Nat := do
  if maxDigits < digits.length then
    throw (.beyond (.digits digits.length))
  let n := readDecimal digits
  if roundLimit ≤ n then throw (.beyond .rounds)
  return n

/-- The rounds that a repetition sign asks for; nothing if the sign stands for itself. -/
def readRounds (sign : Char) : Step (Option (Nat × Option Nat)) := do
  match sign with
  | '?' => return some (0, some 1)
  | '*' => return some (0, none)
  | '+' => return some (1, none)
  | _ =>
    if (← peek) = some (.plain '\x7d') then return none
    let before ← get
    let lo ← Step.takeWhile isAsciiDigit (← remaining)
    let hi ← if ← takeIf ',' then Step.takeWhile isAsciiDigit (← remaining) else pure lo
    if !(← takeIf '\x7d') then
      set before
      return none
    let least ← if lo.isEmpty then pure 0 else roundsOf lo
    if hi.isEmpty then return some (least, none)
    let most ← roundsOf hi
    if most < least then
      refuse "min repeat greater than max repeat" ((← place) - before.source.place)
    return some (least, some most)

/-- The manner that the sign after a repetition asks for. -/
def readManner : Step Manner := do
  if ← takeIf '?' then return .lazy
  if ← takeIf '+' then return .possessive
  return .greedy

/-! ## Options -/

/-- The letters of options. -/
def optionLetters : List Char := ['i', 'L', 'm', 's', 'x', 'a', 't', 'u']

/-- The option letter that a token is, if it is one. -/
def optionOf? : Token → Option Char
  | .plain c => if optionLetters.contains c then some c else none
  | .escaped _ => none

/-- Refuses a token that is no option letter. -/
def notAnOption {α : Type} (t : Token) (missing : String) : Step α :=
  match t with
  | .plain c => refuse (if isLetter c then "unknown flag" else missing) 1
  | .escaped _ => refuse missing 2

/-- Options that are switched on, up to what ends them. -/
def readSwitchOn : Nat → Char → List Char → Step (List Char × Char)
  | 0, c, on => return (on, c)
  | n + 1, c, on => do
    if c = 'L' then refuse "bad inline flags: cannot use 'L' flag with a str pattern"
    let on := on ++ [c]
    if (c = 'a' && on.contains 'u') || (c = 'u' && on.contains 'a') then
      refuse "bad inline flags: flags 'a', 'u' and 'L' are incompatible"
    match ← take with
    | none => refuse "missing -, : or )"
    | some t =>
      if [.plain ')', .plain '-', .plain ':'].contains t then return (on, t.chars.headD ')')
      match optionOf? t with
      | some d => readSwitchOn n d on
      | none => notAnOption t "missing -, : or )"

/-- Options that are switched off, up to the colon. -/
def readSwitchOff : Nat → Char → List Char → Step (List Char)
  | 0, _, off => return off
  | n + 1, c, off => do
    if c = 'a' || c = 'u' || c = 'L' then
      refuse "bad inline flags: cannot turn off flags 'a', 'u' and 'L'"
    let off := off ++ [c]
    match ← take with
    | none => refuse "missing :"
    | some t =>
      if t = .plain ':' then return off
      match optionOf? t with
      | some d => readSwitchOff n d off
      | none => notAnOption t "missing :"

/-- The options after a hyphen. -/
def readOff : Step (List Char) := do
  match ← take with
  | none => refuse "missing flag"
  | some t => match optionOf? t with
    | some c => readSwitchOff ((← remaining) + 1) c []
    | none => notAnOption t "missing flag"

/-- The options after a question mark, of which `first` is the first character. If they concern the
whole pattern they are switched on and nothing is given back. -/
def readOptions (first : Char) : Step (Option Change) := do
  let (on, sign) ← if first = '-' then pure ([], '-') else readSwitchOn ((← remaining) + 1) first []
  if sign = ')' then
    modify fun r => { r with switched := r.switched ++ on }
    return none
  if on.contains 't' then refuse "bad inline flags: cannot turn on global flag" 1
  let off ← if sign = '-' then readOff else pure []
  if off.contains 't' then refuse "bad inline flags: cannot turn off global flag" 1
  if on.any off.contains then refuse "bad inline flags: flag turned on and off" 1
  return some { on, off }

end PayloadCheck.Pattern
