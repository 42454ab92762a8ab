import PayloadCheck.Fault

/-!
# Places in a document

The characters of a document and the places between them. A cursor knows its line and its column;
the byte order mark takes no column. The text has line feeds for its line ends, but some other
characters end lines as well.
-/

namespace PayloadCheck.Yaml

/-- What keeps a text from being read as a document. -/
inductive YamlFault where
  /-- The text is not well formed, or its parts do not fit together. -/
  | malformed (what : String)
  /-- A text that is marked as a value of some kind is none. -/
  | content (fault : OutsideFault)
deriving DecidableEq, Repr, Inhabited

/-- The result of a reading step. -/
abbrev Step := Except YamlFault

/-- Ends a reading because the text is not well formed. -/
def malformed {α : Type} (what : String) : Step α := .error (.malformed what)

/-! ## Characters -/

/-- Characters that end a line. -/
def isBreak (c : Char) : Bool := c == '\n' || c == '\u0085' || c == '\u2028' || c == '\u2029'

/-- The character that a line end leaves in a text: the separators of lines and paragraphs stay
what they are. -/
def breakChar (c : Char) : Char := if c == '\u2028' || c == '\u2029' then c else '\n'

/-- The blank characters inside a line. -/
def isInlineBlank (c : Char) : Bool := c == ' ' || c == '\t'

/-- Whether a word ends here: the end of the text, a blank or a line end. -/
def isGap : Option Char → Bool
  | none => true
  | some c => isInlineBlank c || isBreak c

/-- Whether nothing but blanks may follow here: the end of the text, a space or a line end. -/
def isSpaceOrEnd : Option Char → Bool
  | none => true
  | some c => c == ' ' || isBreak c

/-- The mark that may stand at the beginning of a text. -/
def byteOrderMark : Char := '\uFEFF'

/-- Characters that a document may contain. -/
def isAllowed (c : Char) : Bool :=
  let n := c.toNat
  n == 9 || n == 10 || n == 13 || (0x20 ≤ n && n ≤ 0x7E) || n == 0x85 ||
    (0xA0 ≤ n && n ≤ 0xD7FF) || (0xE000 ≤ n && n ≤ 0xFFFD) || 0x10000 ≤ n

/-- Letters, digits, hyphens and underscores. -/
def isNameLetter (c : Char) : Bool :=
  ('0' ≤ c && c ≤ '9') || ('A' ≤ c && c ≤ 'Z') || ('a' ≤ c && c ≤ 'z') || c == '-' || c == '_'

/-- Whether a line begins with three of the given characters and nothing close behind them. -/
def isMarker (mark : Char) : List Char → Bool
  | a :: b :: c :: rest => a == mark && b == mark && c == mark && isGap rest.head?
  | _ => false

/-- Whether a document begins or ends on this line. -/
def isBoundary (cs : List Char) : Bool := isMarker '-' cs || isMarker '.' cs

/-! ## Cursors -/

/-- A place in a text: what is left of it, and how far the place is from the beginning. -/
structure Cursor where
  rest : List Char
  index : Nat := 0
  line : Nat := 0
  column : Nat := 0
deriving Repr, Inhabited

namespace Cursor

/-- Goes on by one character. -/
def next (p : Cursor) : Cursor :=
  match p.rest with
  | [] => p
  | c :: rest =>
    if isBreak c then ⟨rest, p.index + 1, p.line + 1, 0⟩
    else if c == byteOrderMark then { p with rest, index := p.index + 1 }
    else { p with rest, index := p.index + 1, column := p.column + 1 }

/-- Goes on by some characters. -/
def advance (p : Cursor) : Nat → Cursor
  | 0 => p
  | n + 1 => p.next.advance n

/-- Goes on to where only `rest` is left. -/
def goTo (p : Cursor) (rest : List Char) : Cursor := p.advance (p.rest.length - rest.length)

end Cursor

/-! ## Between words -/

/-- Skips spaces, line ends and comments; tells whether a line ended. -/
def skipGap (inComment : Bool) : List Char → Bool × List Char
  | [] => (false, [])
  | c :: rest =>
    if isBreak c then (true, (skipGap false rest).2)
    else if inComment then skipGap true rest
    else if c == ' ' then skipGap false rest
    else if c == '#' then skipGap true rest
    else (false, c :: rest)

/-- Skips what may follow at the end of a line: spaces, a comment, and the line end itself. -/
def skipLineEnd (cs : List Char) : Step (List Char) :=
  let afterSpaces := cs.dropWhile (· == ' ')
  let afterComment :=
    if afterSpaces.head? == some '#' then afterSpaces.dropWhile (fun c => !isBreak c)
    else afterSpaces
  match afterComment with
  | [] => .ok []
  | c :: rest => if isBreak c then .ok rest else malformed "a comment or a line end is expected"

end PayloadCheck.Yaml
