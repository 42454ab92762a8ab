import PayloadCheck.Yaml.Block
import PayloadCheck.Yaml.Plain
import PayloadCheck.Yaml.Token

/-!
# The tokens of a document, in order

A document is cut into tokens from the front. Two things are known only later than they begin. A
word may turn out to be the key of a map when a colon follows it on the same line; the key token,
and the beginning of a block where there is one, are then put in front of it. A block ends where a
line is indented less than it.
-/

namespace PayloadCheck.Yaml

/-- A word that may turn out to be a key. It must be one if it stands where its block begins. -/
structure Candidate where
  /-- The number of tokens before it. -/
  place : Nat
  required : Bool
  index : Nat
  line : Nat
  column : Nat
deriving Repr

/-- What is read so far. -/
structure Scan where
  cursor : Cursor
  tokens : List Token := []
  /-- The indentation of the current block; `-1` outside of all blocks. -/
  indent : Int := -1
  /-- The indentations of the blocks around the current one. -/
  outer : List Int := []
  keyAllowed : Bool := true
  /-- A candidate for each pair of open brackets, the innermost first, and for what is outside. -/
  candidates : List (Option Candidate) := [none]
deriving Repr

namespace Scan

/-- Whether the place is inside brackets. -/
def inBrackets (s : Scan) : Bool := 1 < s.candidates.length

/-- Adds tokens. -/
def push (s : Scan) (ts : List Token) : Scan := { s with tokens := s.tokens ++ ts }

/-- Puts a token in front of those after a place. -/
def insertAt (s : Scan) (place : Nat) (t : Token) : Scan :=
  { s with tokens := s.tokens.take place ++ t :: s.tokens.drop place }

/-- Goes on to where only `rest` is left. -/
def goTo (s : Scan) (rest : List Char) : Scan := { s with cursor := s.cursor.goTo rest }

/-- How far a key may reach. -/
def keyLimit : Nat := 1024

/-- The fault of a word that should have been a key. -/
def noColon : String := "a colon is expected after a key"

/-- Whether a candidate is no longer one: its line has ended, or it is too long. -/
def isStale (s : Scan) (c : Candidate) : Bool :=
  c.line != s.cursor.line || keyLimit < s.cursor.index - c.index

/-- Gives up the candidates that are no longer ones. -/
def dropStale (s : Scan) : Step Scan :=
  if s.candidates.any fun c => c.any fun c => s.isStale c && c.required then malformed noColon
  else .ok { s with candidates := s.candidates.map fun c => c.filter fun c => !s.isStale c }

/-- Gives up the candidate of the innermost brackets. -/
def dropCandidate (s : Scan) : Step Scan :=
  match s.candidates with
  | some c :: rest =>
    if c.required then malformed noColon else .ok { s with candidates := none :: rest }
  | _ => .ok s

/-- Notes that what comes next may be a key. -/
def noteCandidate (s : Scan) : Step Scan :=
  if s.keyAllowed then do
    let p := s.cursor
    let required := !s.inBrackets && s.indent == (p.column : Int)
    let s ← s.dropCandidate
    let c : Candidate := ⟨s.tokens.length, required, p.index, p.line, p.column⟩
    return { s with candidates := some c :: s.candidates.tail }
  else .ok s

/-- The blocks around a column that end before it: how many, and what is left of them. -/
def unwound (column : Int) : (indent : Int) → (outer : List Int) → Nat × Int × List Int
  | indent, [] => (0, indent, [])
  | indent, next :: rest =>
    if column < indent then
      let (n, indent, outer) := unwound column next rest
      (n + 1, indent, outer)
    else (0, indent, next :: rest)

/-- Ends the blocks that are indented further than a column. Brackets keep blocks open. -/
def unwind (s : Scan) (column : Int) : Scan :=
  if s.inBrackets then s
  else
    let (n, indent, outer) := unwound column s.indent s.outer
    { s with tokens := s.tokens ++ List.replicate n .blockEnd, indent, outer }

/-- Begins a block at a column if it is indented further than the current one; tells whether. -/
def beginBlock (s : Scan) (column : Int) : Bool × Scan :=
  if s.indent < column then (true, { s with indent := column, outer := s.indent :: s.outer })
  else (false, s)

/-- Reads a mark at the beginning of a line that begins or ends a document. -/
def boundary (s : Scan) (t : Token) (rest : List Char) : Step Scan := do
  let s ← (s.unwind (-1)).dropCandidate
  return ({ s with keyAllowed := false }.push [t]).goTo rest

/-- Reads an opening bracket. -/
def openBracket (s : Scan) (t : Token) (rest : List Char) : Step Scan := do
  let s ← s.noteCandidate
  return ({ s with candidates := none :: s.candidates, keyAllowed := true }.push [t]).goTo rest

/-- Reads a closing bracket. -/
def closeBracket (s : Scan) (t : Token) (rest : List Char) : Step Scan := do
  let s ← s.dropCandidate
  if !s.inBrackets then malformed "a closing bracket has no opening one" else
  return ({ s with candidates := s.candidates.tail, keyAllowed := false }.push [t]).goTo rest

/-- Reads a comma. -/
def comma (s : Scan) (rest : List Char) : Step Scan := do
  let s ← s.dropCandidate
  return ({ s with keyAllowed := true }.push [.comma]).goTo rest

/-- Reads a sign that may begin a block outside of brackets: a dash or a question mark. -/
def blockSign (s : Scan) (begin t : Token) (keyAllowed : Bool) (rest : List Char) : Step Scan := do
  let s ← if s.inBrackets then pure s
    else if !s.keyAllowed then malformed "no block may begin here"
    else match s.beginBlock s.cursor.column with
      | (true, s) => pure (s.push [begin])
      | (false, s) => pure s
  let s ← s.dropCandidate
  return ({ s with keyAllowed }.push [t]).goTo rest

/-- Reads a colon. What stands in front of it is a key if it is a candidate. -/
def colon (s : Scan) (rest : List Char) : Step Scan := do
  match s.candidates with
  | some c :: others =>
    let s := { s with candidates := none :: others, keyAllowed := false }.insertAt c.place .key
    let s := if s.inBrackets then s
      else match s.beginBlock c.column with
        | (true, s) => s.insertAt c.place .blockMap
        | (false, s) => s
    return (s.push [.value]).goTo rest
  | _ =>
    let s ← if s.inBrackets then pure s
      else if !s.keyAllowed then malformed "no value may begin here"
      else match s.beginBlock s.cursor.column with
        | (true, s) => pure (s.push [.blockMap])
        | (false, s) => pure s
    let s ← { s with keyAllowed := !s.inBrackets }.dropCandidate
    return (s.push [.value]).goTo rest

/-- Reads something that may be a key, or stand in front of one. -/
def word (s : Scan) (read : Step (Token × List Char)) : Step Scan := do
  let s ← s.noteCandidate
  let (t, rest) ← read
  return ({ s with keyAllowed := false }.push [t]).goTo rest

/-- Reads a block of lines. -/
def block (s : Scan) (folds : Bool) (rest : List Char) : Step Scan := do
  let s ← { s with keyAllowed := true }.dropCandidate
  let (text, rest) ← readBlock folds (max 1 (s.indent + 1)).toNat rest
  return (s.push [.scalar false (String.ofList text)]).goTo rest

/-- Reads a text without quotes. -/
def plain (s : Scan) : Step Scan := do
  let s ← s.noteCandidate
  let cs := s.cursor.rest
  let p := readPlain s.inBrackets (s.indent + 1).toNat (stepsFor cs) cs
  return ({ s with keyAllowed := p.crossed }.push [.scalar true (String.ofList p.text)]).goTo p.rest

/-- Characters that begin no text without quotes. -/
def isSign (c : Char) : Bool := "-?:,[]\x7b\x7d#&*!|>'\"%@\x60".toList.contains c

/-- Whether a text without quotes may begin with a character; `next` is the one after it. -/
def mayBeginPlain (inBrackets : Bool) (c : Char) (next : Option Char) : Bool :=
  !(isInlineBlank c || isBreak c || isSign c) ||
    (!isGap next && (c == '-' || (!inBrackets && (c == '?' || c == ':'))))

/-- Reads a token that begins with a character. -/
def token (s : Scan) (c : Char) (rest : List Char) : Step Scan :=
  let atLineStart := s.cursor.column == 0
  let here := s.cursor.rest
  let gapFollows := isGap rest.head?
  if c == '%' && atLineStart then do
    let s ← (s.unwind (-1)).dropCandidate
    let (t, rest) ← readDirective rest
    return ({ s with keyAllowed := false }.push [t]).goTo rest
  else if atLineStart && isMarker '-' here then s.boundary .documentStart (here.drop 3)
  else if atLineStart && isMarker '.' here then s.boundary .documentEnd (here.drop 3)
  else if c == '[' then s.openBracket .listOpen rest
  else if c == '{' then s.openBracket .mapOpen rest
  else if c == ']' then s.closeBracket .listClose rest
  else if c == '}' then s.closeBracket .mapClose rest
  else if c == ',' then s.comma rest
  else if c == '-' && gapFollows then s.blockSign .blockSequence .dash true rest
  else if c == '?' && (s.inBrackets || gapFollows) then
    s.blockSign .blockMap .key (!s.inBrackets) rest
  else if c == ':' && (s.inBrackets || gapFollows) then s.colon rest
  else if c == '*' then s.word do
    let (name, rest) ← readAnchorName rest
    return (.alias name, rest)
  else if c == '&' then s.word do
    let (name, rest) ← readAnchorName rest
    return (.anchor name, rest)
  else if c == '!' then s.word (readTag rest)
  else if c == '|' && !s.inBrackets then s.block false rest
  else if c == '>' && !s.inBrackets then s.block true rest
  else if c == '\'' || c == '"' then s.word do
    let (text, rest) ← readQuoted (c == '"') (stepsFor rest) rest
    return (.scalar false (String.ofList text), rest)
  else if mayBeginPlain s.inBrackets c rest.head? then s.plain
  else malformed "a token does not begin with this character"

/-- Goes to the beginning of the next token. -/
def skip (s : Scan) : Step Scan := do
  let cs := s.cursor.rest
  let cs := if s.cursor.index == 0 && cs.head? == some byteOrderMark then cs.tail else cs
  let (crossed, rest) := skipGap false cs
  let s := { s with keyAllowed := s.keyAllowed || (crossed && !s.inBrackets) }.goTo rest
  return (← s.dropStale).unwind s.cursor.column

/-- Reads the tokens up to the end. Every step reads a character at least. -/
def run : (steps : Nat) → Scan → Step (List Token)
  | 0, s => .ok s.tokens
  | steps + 1, s => do
    let s ← s.skip
    match s.cursor.rest with
    | [] => return (← (s.unwind (-1)).dropCandidate).tokens
    | c :: rest => run steps (← s.token c rest)

end Scan

/-- The tokens of a document. -/
def readTokens (cs : List Char) : Step (List Token) :=
  if cs.all isAllowed then Scan.run (stepsFor cs) { cursor := { rest := cs } }
  else malformed "a character may not stand in a document"

end PayloadCheck.Yaml
