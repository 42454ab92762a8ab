import PayloadCheck.Environment.Basic
import PayloadCheck.Text.Blank
import PayloadCheck.Text.Pieces

/-!
# Files of settings

A file of settings assigns texts to names, one assignment to a line; `export` may stand in front of
the name. A text between quotes may run over several lines; any other text ends before a `#` that
follows a blank. A line that cannot be read is passed over. In the texts, names in braces after a
dollar sign stand for their own texts, and what the environment already holds is never changed.
-/

namespace PayloadCheck.Environment

open PayloadCheck.Text

/-! ## Reading one assignment -/

/-- Whether a character ends a line. -/
def isLineEnd (c : Char) : Bool := c == '\n' || c == '\r'

/-- Whether a character is a blank within a line. -/
def isGap (c : Char) : Bool := isBlank c && !isLineEnd c

/-- A text without the word `export` in front, if blanks follow it. -/
def dropExport (cs : List Char) : List Char :=
  match cs with
  | 'e' :: 'x' :: 'p' :: 'o' :: 'r' :: 't' :: c :: rest =>
    if isGap c then rest.dropWhile isGap else cs
  | _ => cs

/-- The text before the closing quote and what follows the quote. A quote after a backslash closes
nothing, unless no other quote does. -/
def closeQuote (quote : Char) : List Char → Option (List Char × List Char)
  | [] => none
  | '\\' :: c :: rest =>
    if c = quote then
      match closeQuote quote rest with
      | some (inside, after) => some ('\\' :: c :: inside, after)
      | none => some (['\\'], rest)
    else (closeQuote quote (c :: rest)).map fun (inside, after) => ('\\' :: inside, after)
  | c :: rest =>
    if c = quote then some ([], rest)
    else (closeQuote quote rest).map fun (inside, after) => (c :: inside, after)

/-- The character that an escape between double quotes stands for. -/
def escapeLetter? : Char → Option Char
  | '\\' => some '\\'
  | '\'' => some '\''
  | '"' => some '"'
  | 'a' => some '\x07'
  | 'b' => some '\x08'
  | 'f' => some '\x0c'
  | 'n' => some '\n'
  | 'r' => some '\r'
  | 't' => some '\t'
  | 'v' => some '\x0b'
  | _ => none

/-- A text between quotes with its escapes resolved; between single quotes only the backslash and
the single quote are escaped. -/
def unescape (single : Bool) : List Char → List Char
  | '\\' :: c :: rest =>
    match escapeLetter? c with
    | some e =>
      if !single || c == '\\' || c == '\'' then e :: unescape single rest
      else '\\' :: unescape single (c :: rest)
    | none => '\\' :: unescape single (c :: rest)
  | c :: rest => c :: unescape single rest
  | [] => []

/-- The part of a line before a `#` that follows a blank. -/
def beforeRemark (afterBlank : Bool) : List Char → List Char
  | [] => []
  | c :: rest =>
    if afterBlank && c == '#' then [] else c :: beforeRemark (isBlank c) rest

/-- Reads the text of an assignment. -/
def readText (cs : List Char) : Option (List Char × List Char) :=
  match cs with
  | '\'' :: rest => (closeQuote '\'' rest).map fun (s, after) => (unescape true s, after)
  | '"' :: rest => (closeQuote '"' rest).map fun (s, after) => (unescape false s, after)
  | _ =>
    let line := cs.takeWhile (!isLineEnd ·)
    some (dropEndWhile isBlank (beforeRemark false line), cs.dropWhile (!isLineEnd ·))

/-- Reads a name; a remark has none. -/
def readName (cs : List Char) : Option (Option (List Char) × List Char) :=
  match cs with
  | '#' :: _ => some (none, cs)
  | '\'' :: rest =>
    let name := rest.takeWhile (· != '\'')
    match rest.dropWhile (· != '\'') with
    | _ :: after => if name.isEmpty then none else some (some name, after)
    | [] => none
  | _ =>
    let inName (c : Char) : Bool := c != '=' && c != '#' && !isBlank c
    let name := cs.takeWhile inName
    if name.isEmpty then none else some (some name, cs.dropWhile inName)

/-- What follows a remark and the end of its line, if nothing else is on the line. -/
def endLine (cs : List Char) : Option (List Char) :=
  let rest := match cs.dropWhile isGap with
    | '#' :: more => more.dropWhile (!isLineEnd ·)
    | more => more
  match rest with
  | '\r' :: '\n' :: after => some after
  | c :: after => if isLineEnd c then some after else none
  | [] => some []

/-- What follows the end of a line. -/
def skipLine (cs : List Char) : List Char := (cs.dropWhile (!isLineEnd ·)).drop 1

/-- A name with its text; a name may stand alone. -/
structure Assignment where
  name : String
  text : Option (List Char)

/-- Reads what stands in front of the next assignment and the assignment; gives also what is left.
A line that cannot be read gives nothing. -/
def readAssignment (cs : List Char) : Option Assignment × List Char :=
  let start := dropExport (cs.dropWhile isBlank)
  match readName start with
  | none => (none, skipLine start)
  | some (name, rest) =>
    let rest := rest.dropWhile isGap
    let value := match rest with
      | '=' :: more => (readText (more.dropWhile isGap)).map fun (s, after) => (some s, after)
      | _ => some (none, rest)
    match value with
    | none => (none, skipLine ((rest.drop 1).dropWhile isGap))
    | some (text, after) =>
      match endLine after with
      | none => (none, skipLine after)
      | some left => (name.map fun n => ⟨String.ofList n, text⟩, left)

/-- Reads assignments, at most as many as there are steps. -/
def readSteps : (steps : Nat) → List Char → List Assignment
  | 0, _ => []
  | steps + 1, cs =>
    if cs.all isBlank then []
    else
      let (a, left) := readAssignment cs
      a.toList ++ readSteps steps left

/-- The assignments of a text. Each takes at least one character. -/
def readAssignments (text : String) : List Assignment := readSteps text.length text.toList

/-! ## Names in texts -/

/-- A name in braces, with the text that stands for it where it has none. -/
structure Reference where
  name : String
  otherwise : String

/-- Reads a reference after its dollar sign and brace. -/
def readReference (cs : List Char) : Option (Reference × List Char) :=
  let inName (c : Char) : Bool := c != '\x7d' && c != ':'
  let name := String.ofList (cs.takeWhile inName)
  match cs.dropWhile inName with
  | '\x7d' :: after => some (⟨name, ""⟩, after)
  | ':' :: '-' :: rest =>
    match rest.dropWhile (· != '\x7d') with
    | _ :: after => some (⟨name, String.ofList (rest.takeWhile (· != '\x7d'))⟩, after)
    | [] => none
  | _ => none

/-- A text with its references resolved, in at most as many steps. -/
def resolveSteps (text? : String → Option String) : (steps : Nat) → List Char → List Char
  | 0, cs => cs
  | steps + 1, cs =>
    match cs with
    | '$' :: '\x7b' :: rest =>
      match readReference rest with
      | some (r, after) =>
        ((text? r.name).getD r.otherwise).toList ++ resolveSteps text? steps after
      | none => '$' :: resolveSteps text? steps ('\x7b' :: rest)
    | c :: rest => c :: resolveSteps text? steps rest
    | [] => []

/-- What the names stand for after some assignments: the environment comes first, then the
assignments; a name that stands alone stands for nothing. -/
def lookUp (env : Environment) (assigned : FieldMap (Option String)) (name : String) :
    Option String :=
  match env.get? name with
  | some s => some s
  | none => (assigned.get? name).map (·.getD "")

/-- The texts of assignments, one after the other. -/
def resolveAll (env : Environment) (assignments : List Assignment) : FieldMap (Option String) :=
  assignments.foldl (fun assigned a =>
    assigned.insert a.name <| a.text.map fun cs =>
      String.ofList (resolveSteps (lookUp env assigned) cs.length cs)) []

/-- Adds a text under a name that has none yet. -/
def complete (env : Environment) (name text : String) : Except Fault Environment :=
  if env.has name then .ok env
  else if name.contains '\x00' || text.contains '\x00' then .error (.badValue "embedded null byte")
  else if name.contains '=' then .error (.badValue "illegal environment variable name")
  else .ok (env.insert name text)

/-- Completes the environment with the assignments of a text. -/
def load (env : Environment) (text : String) : Except Fault Environment :=
  (resolveAll env (readAssignments text)).foldlM (fun env (name, text) =>
    match text with
    | some s => complete env name s
    | none => .ok env) env

end PayloadCheck.Environment
