import PayloadCheck.Number.Digits
import PayloadCheck.Text.CodeSet
import PayloadCheck.Yaml.Cursor

/-!
# Quoted texts

Texts between single or double quotes. A line end inside is folded: one alone becomes a space,
each further one stays. Between single quotes a doubled quote stands for a quote; between double
quotes a backslash begins an escape.
-/

namespace PayloadCheck.Yaml

open PayloadCheck.Text

/-- The line ends that follow a first one, with the blanks around them left out. -/
def foldedBreaks (cs : List Char) : Step (List Char × List Char) :=
  if isBoundary cs then malformed "a document must not end inside quotes"
  else match _h : cs.dropWhile isInlineBlank with
    | [] => .ok ([], [])
    | c :: rest =>
      if isBreak c then do
        let (breaks, rest) ← foldedBreaks rest
        return (breakChar c :: breaks, rest)
      else .ok ([], c :: rest)
termination_by cs.length
decreasing_by
  have h := (List.dropWhile_sublist (p := isInlineBlank) (l := cs)).length_le
  rw [_h] at h
  exact h

/-- What a line end and the further ones leave in a text. -/
def folded (first : Char) (further : List Char) : List Char :=
  if breakChar first != '\n' then breakChar first :: further
  else if further.isEmpty then [' ']
  else further

/-- The character that an escape of one letter stands for. -/
def escapeLetter? : Char → Option Char
  | '0' => some '\x00'
  | 'a' => some '\x07'
  | 'b' => some '\x08'
  | 't' | '\t' => some '\t'
  | 'n' => some '\n'
  | 'v' => some '\x0b'
  | 'f' => some '\x0c'
  | 'r' => some '\r'
  | 'e' => some '\x1b'
  | ' ' => some ' '
  | '"' => some '"'
  | '\\' => some '\\'
  | '/' => some '/'
  | 'N' => some '\u0085'
  | '_' => some '\u00a0'
  | 'L' => some '\u2028'
  | 'P' => some '\u2029'
  | _ => none

/-- The number of digits of an escape that gives a code. -/
def escapeDigits? : Char → Option Nat
  | 'x' => some 2
  | 'u' => some 4
  | 'U' => some 8
  | _ => none

/-- Digits to the base sixteen. -/
def isHexDigit (c : Char) : Bool :=
  ('0' ≤ c && c ≤ '9') || ('a' ≤ c && c ≤ 'f') || ('A' ≤ c && c ≤ 'F')

/-- The character of a code. -/
def charOfCode (n : Nat) : Step Char :=
  if n < 0x110000 then .ok (Char.ofNat n)
  else if n < Number.twoPow 31 then
    .error (.content ⟨.badValue "chr() arg not in range(0x110000)", rfl⟩)
  else .error (.content ⟨.outOfRange "Python int too large to convert to C int", rfl⟩)

/-- Reads the digits of an escape. -/
def readCode (digits : Nat) (cs : List Char) : Step Char :=
  let code := cs.take digits
  if code.length = digits && code.all isHexDigit then charOfCode (readHex code)
  else malformed "an escape has too few digits"

/-- Puts characters in front of what is read further on. -/
def prepend (cs : List Char) (r : List Char × List Char) : List Char × List Char :=
  (cs ++ r.1, r.2)

/-- How many steps may be needed for a text: one for each character, and one for the end. -/
def stepsFor (cs : List Char) : Nat := cs.length + 1

/-- Reads a text up to its closing quote; gives the text and what follows the quote. Every step
reads a character at least. -/
def readQuoted (double : Bool) : (steps : Nat) → List Char → Step (List Char × List Char)
  | 0, _ => malformed "a closing quote is missing"
  | _, [] => malformed "a closing quote is missing"
  | steps + 1, c :: rest =>
    if isInlineBlank c then
      let blanks := (c :: rest).takeWhile isInlineBlank
      match (c :: rest).dropWhile isInlineBlank with
      | [] => malformed "a closing quote is missing"
      | d :: more =>
        if isBreak d then do
          let (further, more) ← foldedBreaks more
          return prepend (folded d further) (← readQuoted double steps more)
        else do return prepend blanks (← readQuoted double steps (d :: more))
    else if isBreak c then do
      let (further, more) ← foldedBreaks rest
      return prepend (folded c further) (← readQuoted double steps more)
    else if !double && c == '\'' then
      match rest with
      | '\'' :: more => do return prepend ['\''] (← readQuoted double steps more)
      | _ => .ok ([], rest)
    else if double && c == '"' then .ok ([], rest)
    else if double && c == '\\' then
      match rest with
      | [] => malformed "an escape is not finished"
      | d :: more =>
        match escapeLetter? d, escapeDigits? d with
        | some e, _ => do return prepend [e] (← readQuoted double steps more)
        | none, some n => do
          let e ← readCode n more
          return prepend [e] (← readQuoted double steps (more.drop n))
        | none, none =>
          if isBreak d then do
            let (further, more) ← foldedBreaks more
            return prepend further (← readQuoted double steps more)
          else malformed "an escape is not known"
    else do return prepend [c] (← readQuoted double steps rest)

end PayloadCheck.Yaml
