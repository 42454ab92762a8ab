import PayloadCheck.Number.Digits
import PayloadCheck.Text.CodeSet
import PayloadCheck.Text.Pieces

/-!
# Writing JSON

A document is written with its items on lines of their own, indented by two spaces at each level,
or on one line. Only quotes, backslashes and control characters are escaped in texts.
-/

namespace PayloadCheck.Json

open PayloadCheck.Text PayloadCheck.Number

/-- What is written. -/
inductive Document where
  | null
  | text (s : String)
  | bool (b : Bool)
  | number (i : Int)
  | list (items : List Document)
  | object (fields : List (String × Document))

/-- One character inside quotes. -/
def escapeChar (c : Char) : List Char :=
  if c = '"' ∨ c = '\\' then ['\\', c]
  else if c = '\n' then ['\\', 'n']
  else if c = '\r' then ['\\', 'r']
  else if c = '\t' then ['\\', 't']
  else if c = '\x0c' then ['\\', 'f']
  else if c = '\x08' then ['\\', 'b']
  else if c.toNat < 32 then ['\\', 'u'] ++ hexPadded 4 c.toNat
  else [c]

/-- A text between quotes. -/
def quotedChars (s : String) : List Char := '"' :: s.toList.flatMap escapeChar ++ ['"']

/-- A line end and the indentation of a level. -/
def lineStart (level : Nat) : List Char := '\n' :: List.replicate (2 * level) ' '

/-- Items between brackets, each on a line of its own. -/
def bracketed (opening closing : Char) (level : Nat) (items : List (List Char)) : List Char :=
  if items.isEmpty then [opening, closing]
  else
    opening :: join [','] (items.map fun item => lineStart (level + 1) ++ item) ++
      lineStart level ++ [closing]

namespace Document

mutual

/-- Writes a document at a level. -/
def chars (level : Nat) : Document → List Char
  | null => "null".toList
  | text s => quotedChars s
  | bool b => (if b then "true" else "false").toList
  | number i => intChars i
  | list items => bracketed '[' ']' level (allChars (level + 1) items)
  | object fields => bracketed '{' '}' level (fieldChars (level + 1) fields)

/-- Writes items at a level. -/
def allChars (level : Nat) : List Document → List (List Char)
  | [] => []
  | d :: rest => chars level d :: allChars level rest

/-- Writes the fields of an object at a level. -/
def fieldChars (level : Nat) : List (String × Document) → List (List Char)
  | [] => []
  | (name, d) :: rest =>
    (quotedChars name ++ [':', ' '] ++ chars level d) :: fieldChars level rest

end

/-- The text of a document. -/
def render (d : Document) : String := String.ofList (d.chars 0)

mutual

/-- Writes a document on one line. -/
def flatChars : Document → List Char
  | list items => '[' :: join [',', ' '] (allFlat items) ++ [']']
  | object fields => '{' :: join [',', ' '] (fieldsFlat fields) ++ ['}']
  | d => d.chars 0

/-- Writes items on one line. -/
def allFlat : List Document → List (List Char)
  | [] => []
  | d :: rest => flatChars d :: allFlat rest

/-- Writes the fields of an object on one line. -/
def fieldsFlat : List (String × Document) → List (List Char)
  | [] => []
  | (name, d) :: rest => (quotedChars name ++ [':', ' '] ++ flatChars d) :: fieldsFlat rest

end

/-- The text of a document on one line. -/
def line (d : Document) : String := String.ofList d.flatChars

end Document

end PayloadCheck.Json
