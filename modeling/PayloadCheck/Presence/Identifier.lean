import PayloadCheck.Fault
import PayloadCheck.Text.Blank
import PayloadCheck.Text.Property
import PayloadCheck.Value.Basic

/-!
# Identifiers

The names of tables and columns that may stand in a statement: a letter or underscore, then
letters, digits and underscores, at most 63 characters in all. Blanks around a name are passed
over.
-/

namespace PayloadCheck.Presence

open PayloadCheck.Text

/-- Characters of an identifier. -/
def isIdentifierChar (c : Char) : Bool := isAsciiLetter c || isAsciiDigit c || c == '_'

/-- Whether a text has the form of an identifier, whatever its length. -/
def hasIdentifierForm (cs : List Char) : Bool :=
  match cs with
  | [] => false
  | c :: rest => (isAsciiLetter c || c == '_') && rest.all isIdentifierChar

/-- The greatest length of an identifier. -/
def identifierLimit : Nat := 63

/-- A name that may stand in a statement. -/
structure Identifier where
  chars : List Char
  has_form : hasIdentifierForm chars = true
  length_le : chars.length ≤ identifierLimit

namespace Identifier

/-- The name of an identifier. -/
def name (i : Identifier) : String := String.ofList i.chars

/-- The fault of a name that is no identifier; `what` says what the name is for. -/
def badForm (what : String) (cs : List Char) : Fault :=
  .unsafeInput s!"{what} '{String.ofList cs}' contains invalid characters. SQL identifiers must start with a letter or underscore and contain only alphanumeric characters and underscores."

/-- Reads an identifier. -/
def read (text what : String) : Except Fault Identifier :=
  if text.isEmpty then .error (.unsafeInput s!"{what} must be a non-empty string")
  else
    let cs := trimChars text.toList
    if hf : hasIdentifierForm cs = true then
      if hl : cs.length ≤ identifierLimit then .ok ⟨cs, hf, hl⟩
      else .error (.unsafeInput s!"{what} exceeds PostgreSQL maximum length of 63 characters")
    else .error (badForm what cs)

/-- Reads an identifier from any value; only texts are names. -/
def ofValue (v : Value) (what : String) : Except Fault Identifier :=
  match v with
  | .text s => read s what
  | _ => .error (.unsafeInput s!"{what} must be a non-empty string")

/-- The identifier as it stands in a statement. -/
def quotedChars (i : Identifier) : List Char := '"' :: i.chars ++ ['"']

end Identifier

end PayloadCheck.Presence
