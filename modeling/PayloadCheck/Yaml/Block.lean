import PayloadCheck.Yaml.Cursor

/-!
# Texts as blocks of lines

A block of lines begins after a bar (line ends are kept) or a greater-than sign (they are folded).
The sign may be followed by the indentation of the lines and by what becomes of the line ends after
the last line: a plus keeps them all, a minus none, otherwise one is kept.
-/

namespace PayloadCheck.Yaml

/-- What becomes of the line ends after the last line. -/
inductive Tail where
  | clip
  | strip
  | keep
deriving DecidableEq, Repr

/-- The indentation that a digit asks for. -/
def readIndent? (c : Char) : Step (Option Nat) :=
  if c == '0' then malformed "an indentation is at least 1"
  else if '1' ≤ c && c ≤ '9' then .ok (some (c.toNat - 48))
  else .ok none

/-- What a sign asks for. -/
def readTail? (c : Char) : Option Tail :=
  if c == '+' then some .keep else if c == '-' then some .strip else none

/-- What stands after the sign that begins a block. -/
def readHeader (cs : List Char) : Step (Tail × Option Nat × List Char) :=
  match cs with
  | [] => .ok (.clip, none, [])
  | c :: rest =>
    match readTail? c with
    | some tail =>
      match rest with
      | [] => .ok (tail, none, [])
      | d :: more => do
        match ← readIndent? d with
        | some n => return (tail, some n, more)
        | none => return (tail, none, d :: more)
    | none => do
      match ← readIndent? c with
      | none => return (.clip, none, c :: rest)
      | some n =>
        match rest with
        | [] => return (.clip, some n, [])
        | d :: more =>
          match readTail? d with
          | some tail => return (tail, some n, more)
          | none => return (.clip, some n, d :: more)

/-- Goes over the empty lines at the beginning of a block: the line ends, the greatest indentation
met, and the indentation of the line that follows. -/
def leadingBreaks (column greatest : Nat) : List Char → List Char × Nat × Nat × List Char
  | [] => ([], greatest, column, [])
  | c :: rest =>
    if c == ' ' then leadingBreaks (column + 1) (max greatest (column + 1)) rest
    else if isBreak c then
      let (breaks, most, last, more) := leadingBreaks 0 greatest rest
      (breakChar c :: breaks, most, last, more)
    else ([], greatest, column, c :: rest)

/-- Goes over empty lines and the indentation of the line that follows: the line ends, the
indentation passed over, and what is left. -/
def blockBreaks (indent column : Nat) : List Char → List Char × Nat × List Char
  | [] => ([], column, [])
  | c :: rest =>
    if c == ' ' && column < indent then blockBreaks indent (column + 1) rest
    else if isBreak c then
      let (breaks, last, more) := blockBreaks indent 0 rest
      (breakChar c :: breaks, last, more)
    else ([], column, c :: rest)

/-- What stays between two lines of a block. -/
def between (folds : Bool) (line : List Char) (lineEnd : Char) (breaks next : List Char) :
    List Char :=
  let starts (cs : List Char) : Bool := cs.head?.any isInlineBlank
  if folds && lineEnd == '\n' && !starts line && !starts next then
    if breaks.isEmpty then [' '] else []
  else [lineEnd]

/-- Reads the lines of a block: the text up to the end of the last line, the line ends after it,
and what is left. Every step reads a line. -/
def readLines (folds : Bool) (indent : Nat) :
    (steps : Nat) → (before : List Char) → (column : Nat) → List Char →
      List Char × List Char × List Char × List Char
  | 0, before, _, cs => ([], [], before, cs)
  | steps + 1, before, column, cs =>
    if column != indent || cs.isEmpty then ([], [], before, cs)
    else
      let line := cs.takeWhile fun c => !isBreak c
      match cs.dropWhile (fun c => !isBreak c) with
      | [] => (before ++ line, [], [], [])
      | c :: rest =>
        let (breaks, column, next) := blockBreaks indent 0 rest
        if column == indent && !next.isEmpty then
          let glue := between folds line (breakChar c) breaks next
          let (text, lineEnd, tail, more) := readLines folds indent steps breaks column next
          (before ++ line ++ glue ++ text, lineEnd, tail, more)
        else (before ++ line, [breakChar c], breaks, next)

/-- Reads a block after its sign; `least` is the least indentation of its lines. -/
def readBlock (folds : Bool) (least : Nat) (cs : List Char) : Step (List Char × List Char) := do
  let (tail, given, cs) ← readHeader cs
  if !isSpaceOrEnd cs.head? then malformed "a block begins on a line of its own" else
  let cs ← skipLineEnd cs
  let (indent, before, column, cs) := match given with
    | none =>
      let (breaks, most, column, rest) := leadingBreaks 0 0 cs
      (max least most, breaks, column, rest)
    | some n =>
      let indent := least + n - 1
      let (breaks, column, rest) := blockBreaks indent 0 cs
      (indent, breaks, column, rest)
  let (text, lineEnd, breaks, rest) := readLines folds indent (cs.length + 1) before column cs
  let kept := match tail with
    | .clip => lineEnd
    | .strip => []
    | .keep => lineEnd ++ breaks
  return (text ++ kept, rest)

end PayloadCheck.Yaml
