import PayloadCheck.Yaml.Cursor

/-!
# Texts without quotes

A text without quotes ends before a colon that a gap follows, before a comment, and where a line
is not indented as far as it must be. Inside brackets it ends before the characters that have a
meaning there, too.
-/

namespace PayloadCheck.Yaml

/-- The characters that have a meaning inside brackets. -/
def isBracketMark (c : Char) : Bool :=
  c == ',' || c == '[' || c == ']' || c == '{' || c == '}'

/-- Whether a word without quotes ends before a character; `next` is the one after it. -/
def endsWord (inBrackets : Bool) (c : Char) (next : Option Char) : Bool :=
  isInlineBlank c || isBreak c ||
    (c == ':' && (isGap next || (inBrackets && next.any isBracketMark))) ||
    (inBrackets && (isBracketMark c || c == '?'))

/-- The word at the beginning of a text, and what follows it. -/
def plainWord (inBrackets : Bool) : List Char → List Char × List Char
  | [] => ([], [])
  | c :: rest =>
    if endsWord inBrackets c rest.head? then ([], c :: rest)
    else
      let (word, more) := plainWord inBrackets rest
      (c :: word, more)

/-- What lies between two words. -/
structure PlainGap where
  /-- What the gap leaves in the text. Nothing means that the text is at its end. -/
  text : List Char
  /-- Whether a line ended. -/
  crossed : Bool
  /-- How far the line is indented, where one ended. -/
  column : Nat
  rest : List Char

/-- The further line ends after a first one. -/
structure PlainBreaks where
  breaks : List Char
  /-- Whether a document begins or ends here. -/
  stopped : Bool
  column : Nat
  rest : List Char

/-- Goes over spaces and line ends up to a word or the end of the document. -/
def plainBreaks (column : Nat) : List Char → PlainBreaks
  | [] => ⟨[], false, column, []⟩
  | c :: rest =>
    if c == ' ' then plainBreaks (column + 1) rest
    else if isBreak c then
      if isBoundary rest then ⟨[breakChar c], true, 0, rest⟩
      else
        let b := plainBreaks 0 rest
        { b with breaks := breakChar c :: b.breaks }
    else ⟨[], false, column, c :: rest⟩

/-- Goes over the gap after a word. -/
def plainGap (cs : List Char) : PlainGap :=
  let spaces := cs.takeWhile (· == ' ')
  match cs.dropWhile (· == ' ') with
  | [] => ⟨spaces, false, 0, []⟩
  | c :: rest =>
    if isBreak c then
      if isBoundary rest then ⟨[], true, 0, rest⟩
      else
        let b := plainBreaks 0 rest
        if b.stopped then ⟨[], true, 0, b.rest⟩
        else
          let text := if breakChar c != '\n' then breakChar c :: b.breaks
            else if b.breaks.isEmpty then [' '] else b.breaks
          ⟨text, true, b.column, b.rest⟩
    else ⟨spaces, false, 0, c :: rest⟩

/-- A text without quotes: the text, whether the gap after it goes over a line end, and what is
left. -/
structure PlainText where
  text : List Char
  crossed : Bool
  rest : List Char

/-- Reads a text without quotes whose further lines are indented by at least `indent`. Every step
reads a word at least. -/
def readPlain (inBrackets : Bool) (indent : Nat) : (steps : Nat) → List Char → PlainText
  | 0, cs => ⟨[], false, cs⟩
  | steps + 1, cs =>
    let (word, rest) := plainWord inBrackets cs
    if word.isEmpty || cs.head? == some '#' then ⟨[], false, cs⟩
    else
      let gap := plainGap rest
      let ended := gap.text.isEmpty || gap.rest.head? == some '#' ||
        (!inBrackets && gap.crossed && gap.column < indent)
      if ended then ⟨word, gap.crossed, gap.rest⟩
      else
        let more := readPlain inBrackets indent steps gap.rest
        if more.text.isEmpty then ⟨word, gap.crossed, more.rest⟩
        else ⟨word ++ gap.text ++ more.text, more.crossed, more.rest⟩

end PayloadCheck.Yaml
