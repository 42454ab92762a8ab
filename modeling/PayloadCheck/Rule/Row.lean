/-!
# Rows of fields

One row of fields separated by commas. A field may stand between double quotes, where commas are
part of it and a doubled quote stands for a quote. Nothing may follow the end of a line outside
quotes.
-/

namespace PayloadCheck.Rule.Row

/-- The greatest number of characters of a field. -/
def fieldLimit : Nat := 131072

/-- What is wrong with a row. -/
inductive RowFault where
  | lineEndInside
  | fieldTooLong
deriving DecidableEq, Repr

/-- The text of a fault. -/
def RowFault.message : RowFault → String
  | lineEndInside =>
    "new-line character seen in unquoted field - do you need to open the file in universal-newline mode?"
  | fieldTooLong => "field larger than field limit (131072)"

/-- Where the reader stands. -/
inductive State where
  | rowStart
  | fieldStart
  | inField
  | inQuotes
  | afterQuote
  | rowEnd
deriving DecidableEq, Repr

/-- Line ends. -/
def isLineEnd (c : Char) : Bool := c == '\n' || c == '\r'

/-- What is read so far: the finished fields and the characters of the current one, both with the
last first, and its length. -/
structure Reading where
  state : State
  fields : List (List Char)
  current : List Char
  size : Nat

namespace Reading

/-- Finishes the current field. -/
def close (r : Reading) (state : State) : Reading :=
  ⟨state, r.current.reverse :: r.fields, [], 0⟩

/-- Adds a character to the current field. -/
def push (r : Reading) (state : State) (c : Char) : Except RowFault Reading :=
  if fieldLimit ≤ r.size then .error .fieldTooLong
  else .ok { r with state, current := c :: r.current, size := r.size + 1 }

/-- Reads one character at the start of a field. -/
def beginField (r : Reading) (c : Char) : Except RowFault Reading :=
  if isLineEnd c then .ok (r.close .rowEnd)
  else if c = '"' then .ok { r with state := .inQuotes }
  else if c = ',' then .ok (r.close .fieldStart)
  else r.push .inField c

/-- Reads one character. -/
def step (r : Reading) (c : Char) : Except RowFault Reading :=
  match r.state with
  | .rowStart => if isLineEnd c then .ok { r with state := .rowEnd } else r.beginField c
  | .fieldStart => r.beginField c
  | .inField =>
    if isLineEnd c then .ok (r.close .rowEnd)
    else if c = ',' then .ok (r.close .fieldStart)
    else r.push .inField c
  | .inQuotes =>
    if c = '"' then .ok { r with state := .afterQuote } else r.push .inQuotes c
  | .afterQuote =>
    if c = '"' then r.push .inQuotes c
    else if c = ',' then .ok (r.close .fieldStart)
    else if isLineEnd c then .ok (r.close .rowEnd)
    else r.push .inField c
  | .rowEnd => if isLineEnd c then .ok r else .error .lineEndInside

/-- The fields when the text ends. -/
def finish (r : Reading) : List (List Char) :=
  match r.state with
  | .rowStart | .rowEnd => r.fields.reverse
  | _ => (r.close .rowEnd).fields.reverse

end Reading

/-- Reads one row. An empty text is a row without fields. -/
def read (cs : List Char) : Except RowFault (List (List Char)) :=
  (cs.foldlM Reading.step ⟨.rowStart, [], [], 0⟩).map Reading.finish

end PayloadCheck.Rule.Row
