import PayloadCheck.Text.Blank
import PayloadCheck.Text.Casing
import PayloadCheck.Text.Pieces

/-!
# Names of rules

A rule may be written in several ways: `digits_between`, `digits-between`, `DigitsBetween`. Its
identifier puts the words together with capital beginnings, its key is the identifier in small
letters, and its readable name separates the words again.
-/

namespace PayloadCheck.Rule

open PayloadCheck.Text

/-- The characters between the words of a name. -/
def isWordGap (c : Char) : Bool := c == '-' || c == '_' || isBlank c

/-- The words of a name. -/
def words (cs : List Char) : List (List Char) :=
  (piecesBy isWordGap cs).filter fun w => !w.isEmpty

/-- A word with a capital beginning. -/
def capitalize : List Char → List Char
  | [] => []
  | c :: rest => upperChars c ++ rest

/-- The identifier of a rule name: its words with capital beginnings, put together. -/
def identifierChars (cs : List Char) : List Char := (words cs).flatMap capitalize

/-- The identifier of a rule name. -/
def identifier (name : String) : String := String.ofList (identifierChars name.toList)

/-- The key under which a rule is found: its identifier in small letters. -/
def key (name : String) : String := lower (identifier name)

/-- The key as characters, which closed names are computed by. -/
theorem key_eq_ofList (name : String) :
    key name = String.ofList (lowerAfter [] (identifierChars name.toList)) := by
  simp only [key, lower, identifier, String.toList_ofList]

theorem key_of_chars {name key : String}
    (h : lowerAfter [] (identifierChars name.toList) = key.toList) : Rule.key name = key := by
  rw [key_eq_ofList, h, String.ofList_toList]

/-- Replaces every character that stands before a capital on its line. -/
def replaceBeforeCapitals (replace : Char → List Char) : List Char → List Char
  | [] => []
  | [c] => [c]
  | c :: d :: rest =>
    (if c != '\n' && isAsciiUpper d then replace c else [c])
      ++ replaceBeforeCapitals replace (d :: rest)

/-- Puts a separator before every capital that follows another character on its line. -/
def separateCapitals (separator : List Char) : List Char → List Char :=
  replaceBeforeCapitals fun c => c :: separator

/-- An identifier with its words separated, in small letters. A name in small letters stays as it
is. -/
def separated (separator name : String) : String :=
  if isLowerText name then name
  else lower (String.ofList (separateCapitals separator.toList name.toList))

/-- The readable name of an identifier, its words separated by underscores. -/
def readable (name : String) : String := separated "_" name

end PayloadCheck.Rule
