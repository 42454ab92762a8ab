import PayloadCheck.Text.CodeSet
import PayloadCheck.Yaml.Quoted

/-!
# Tokens of a document

The signs and words that a document is made of, and the reading of those whose form does not
depend on what surrounds them: names of anchors, tags, and directives.
-/

namespace PayloadCheck.Yaml

open PayloadCheck.Text

/-- What a directive says. -/
inductive Directive where
  | version (major minor : Nat)
  | handle (name leading : String)
  | unknown
deriving DecidableEq, Repr

/-- A sign or word of a document. The beginning and the end of an indented block are tokens, too,
although no character stands for them. -/
inductive Token where
  | directive (d : Directive)
  | documentStart
  | documentEnd
  | blockSequence
  | blockMap
  | blockEnd
  | listOpen
  | listClose
  | mapOpen
  | mapClose
  | dash
  | comma
  | key
  | value
  | alias (name : String)
  | anchor (name : String)
  | tag (handle : Option String) (suffix : String)
  | scalar (plain : Bool) (text : String)
deriving DecidableEq, Repr

/-! ## Names of anchors -/

/-- Whether a character may follow the name of an anchor. -/
def mayFollowName : Option Char → Bool
  | none => true
  | some c => isInlineBlank c || isBreak c || "?:,]\x7d%@\x60".toList.contains c

/-- Reads the name of an anchor. -/
def readAnchorName (cs : List Char) : Step (String × List Char) :=
  let name := cs.takeWhile isNameLetter
  let rest := cs.dropWhile isNameLetter
  if name.isEmpty || !mayFollowName rest.head? then
    malformed "the name of an anchor is made of letters and digits"
  else .ok (String.ofList name, rest)

/-! ## Tags -/

/-- Characters of a tag that stand for themselves. -/
def isTagChar (c : Char) : Bool :=
  isNameLetter c || "-;/?:@&=+$,_.!~*'()[]".toList.contains c

/-- Bytes that are written as escapes, and what follows them. -/
def escapedBytes : List Char → Step (List UInt8 × List Char)
  | '%' :: a :: b :: rest =>
    if isHexDigit a && isHexDigit b then do
      let (bytes, rest) ← escapedBytes rest
      return (UInt8.ofNat (readHex [a, b]) :: bytes, rest)
    else malformed "an escape in a tag has two digits"
  | '%' :: _ => malformed "an escape in a tag has two digits"
  | cs => .ok ([], cs)

/-- Reads the body of a tag. Every step reads a character at least. -/
def tagChars : (steps : Nat) → List Char → Step (List Char × List Char)
  | 0, cs => .ok ([], cs)
  | _, [] => .ok ([], [])
  | steps + 1, c :: rest =>
    if c == '%' then do
      let (bytes, rest) ← escapedBytes (c :: rest)
      match String.fromUTF8? ⟨bytes.toArray⟩ with
      | some s => return prepend s.toList (← tagChars steps rest)
      | none => malformed "the escapes of a tag are no text"
    else if isTagChar c then do return prepend [c] (← tagChars steps rest)
    else .ok ([], c :: rest)

/-- Reads the body of a tag, which must not be empty. -/
def readTagBody (cs : List Char) : Step (String × List Char) := do
  let (body, rest) ← tagChars (stepsFor cs) cs
  if body.isEmpty then malformed "a tag has no body" else return (String.ofList body, rest)

/-- Reads the handle of a tag: an exclamation mark alone, or a name between two. -/
def readHandle : List Char → Step (String × List Char)
  | '!' :: rest =>
    let name := rest.takeWhile isNameLetter
    match rest.dropWhile isNameLetter with
    | '!' :: more => .ok (String.ofList ('!' :: name ++ ['!']), more)
    | more =>
      if rest.head? == some ' ' then .ok ("!", more)
      else malformed "the handle of a tag has no end"
  | _ => malformed "the handle of a tag begins with an exclamation mark"

/-- Whether there is a second exclamation mark before the next gap. -/
def hasSecondMark (cs : List Char) : Bool :=
  (cs.takeWhile fun c => !(c == ' ' || isBreak c)).contains '!'

/-- Reads a tag after its first exclamation mark. -/
def readTag (cs : List Char) : Step (Token × List Char) := do
  let (token, rest) ← match cs with
    | '<' :: more => do
      let (suffix, rest) ← readTagBody more
      match rest with
      | '>' :: rest => pure (Token.tag none suffix, rest)
      | _ => malformed "a tag in angle brackets has no end"
    | _ =>
      if isGap cs.head? then pure (Token.tag none "!", cs)
      else do
        let (handle, rest) ← if hasSecondMark cs then readHandle ('!' :: cs) else pure ("!", cs)
        let (suffix, rest) ← readTagBody rest
        pure (Token.tag (some handle) suffix, rest)
  if isSpaceOrEnd rest.head? then return (token, rest)
  else malformed "a tag ends before a space"

/-! ## Directives -/

/-- Reads a number. -/
def readNumber (cs : List Char) : Step (Nat × List Char) :=
  let digits := cs.takeWhile fun c => '0' ≤ c && c ≤ '9'
  if digits.isEmpty then malformed "a version has numbers"
  else .ok (digits.foldl (fun n c => 10 * n + (c.toNat - 48)) 0,
    cs.dropWhile fun c => '0' ≤ c && c ≤ '9')

/-- A text without the spaces in front. -/
def dropSpaces (cs : List Char) : List Char := cs.dropWhile (· == ' ')

/-- Reads the version that a document asks for. -/
def readVersion (cs : List Char) : Step (Directive × List Char) := do
  let (major, rest) ← readNumber (dropSpaces cs)
  match rest with
  | '.' :: more =>
    let (minor, rest) ← readNumber more
    if isSpaceOrEnd rest.head? then return (.version major minor, rest)
    else malformed "a version is two numbers"
  | _ => malformed "a version is two numbers"

/-- Reads what a handle stands for. -/
def readHandleMeaning (cs : List Char) : Step (Directive × List Char) := do
  let (name, rest) ← readHandle (dropSpaces cs)
  if rest.head? != some ' ' then malformed "a handle ends before a space" else
  let (leading, rest) ← readTagBody (dropSpaces rest)
  if isSpaceOrEnd rest.head? then return (.handle name leading, rest)
  else malformed "the meaning of a handle ends before a space"

/-- Reads a directive after its percent sign. -/
def readDirective (cs : List Char) : Step (Token × List Char) := do
  let name := cs.takeWhile isNameLetter
  let rest := cs.dropWhile isNameLetter
  if name.isEmpty || !isSpaceOrEnd rest.head? then malformed "a directive has a name" else
  let (directive, rest) ←
    if name = "YAML".toList then readVersion rest
    else if name = "TAG".toList then readHandleMeaning rest
    else pure (Directive.unknown, rest.dropWhile fun c => !isBreak c)
  return (.directive directive, ← skipLineEnd rest)

end PayloadCheck.Yaml
