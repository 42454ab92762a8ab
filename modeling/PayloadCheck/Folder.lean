import PayloadCheck.Fault
import PayloadCheck.FieldMap
import PayloadCheck.Media.Upload
import PayloadCheck.Text.Pieces
import PayloadCheck.Text.Quoted
import PayloadCheck.Value.Basic
import PayloadCheck.Text.Blank

/-!
# Folders

The files of a working folder, found by their paths. A path is walked component by component, so
that a component which does not exist is noticed even where `..` would leave it again. What lies
outside the folder is not known: its root and the folders above are folders, everything else there
is missing.
-/

namespace PayloadCheck

open PayloadCheck.Text

/-! ## Paths in short form -/

/-- A path in short form: its anchor (empty, one slash, or two) and its components, without the
empty ones and those that stand for the folder itself. -/
structure Location where
  anchor : String
  parts : List String
deriving DecidableEq, Repr, Inhabited

namespace Location

/-- The components of a path that lead somewhere. -/
def partsOf (path : String) : List String :=
  (split '/' path).filter fun p => p != "" && p != "."

/-- The anchor of a path: three slashes and more are as good as one. -/
def anchorOf (path : String) : String :=
  match (path.toList.takeWhile (· == '/')).length with
  | 0 => ""
  | 2 => "//"
  | _ => "/"

/-- The short form of a path. -/
def ofPath (path : String) : Location := ⟨anchorOf path, partsOf path⟩

/-- The text of a path in short form. -/
def text (l : Location) : String :=
  if l.anchor.isEmpty && l.parts.isEmpty then "." else l.anchor ++ joinTexts "/" l.parts

/-- The last component. -/
def name (l : Location) : String := l.parts.getLast?.getD ""

/-- The last component without its ending. A point at either end begins no ending. -/
def stem (l : Location) : String :=
  match cut? '.' l.name.toList.reverse with
  | some (ending, rest) =>
    if ending.isEmpty || rest.isEmpty then l.name else String.ofList rest.reverse
  | none => l.name

end Location

/-! ## Walking -/

/-- The files of a folder, each under the components of its path, and those of its folders that
are there even without a file. -/
structure Folder where
  files : List (List String × String) := []
  folders : List (List String) := []
deriving Repr, Inhabited

/-- Why a path cannot be followed. -/
inductive Obstacle where
  | missing
  | fileInBetween
  | nameTooLong
deriving DecidableEq, Repr

/-- What a path leads to. -/
inductive Place where
  /-- A folder inside, under its components. -/
  | folder (parts : List String)
  /-- A folder outside. -/
  | outside
  /-- A file inside, under its components, with its text. -/
  | file (parts : List String) (text : String)
deriving DecidableEq, Repr

/-- The greatest number of bytes of a component. -/
def componentLimit : Nat := 255

/-- The greatest number of bytes of a path. -/
def pathLimit : Nat := 4095

namespace Folder

/-- Puts a text under the components of a path. -/
def put (f : Folder) (parts : List String) (text : String) : Folder :=
  { f with files := f.files.filter (fun entry => entry.1 != parts) ++ [(parts, text)] }

/-- A folder of the given files; of two under one path the last one's text counts. -/
def ofList (entries : List (String × String)) : Folder :=
  entries.foldl (fun f (path, text) => f.put (Location.partsOf path) text) {}

/-- Whether there is a folder under the given components: one in which a file lies, one that is
there without a file, or the folder itself. -/
def hasFolder (f : Folder) (parts : List String) : Bool :=
  parts.isEmpty || f.folders.contains parts ||
    f.files.any fun (path, _) => parts.length < path.length && path.take parts.length == parts

/-- One component further. -/
def step (f : Folder) (place : Place) (component : String) : Except Obstacle Place :=
  match place with
  | .file .. => .error .fileInBetween
  | .outside =>
    if componentLimit < component.utf8ByteSize then .error .nameTooLong
    else if component == "" || component == "." || component == ".." then .ok .outside
    else .error .missing
  | .folder parts =>
    if componentLimit < component.utf8ByteSize then .error .nameTooLong
    else if component == "" || component == "." then .ok place
    else if component == ".." then
      .ok (if parts.isEmpty then .outside else .folder parts.dropLast)
    else
      let further := parts ++ [component]
      match f.files.lookup further with
      | some text => .ok (.file further text)
      | none => if f.hasFolder further then .ok (.folder further) else .error .missing

/-- Several components further. -/
def walk (f : Folder) (place : Place) (components : List String) : Except Obstacle Place :=
  components.foldlM f.step place

/-- Where a path starts. -/
def start (path : String) : Place := if path.startsWith "/" then .outside else .folder []

/-- Follows a path. -/
def find (f : Folder) (path : String) : Except Obstacle Place :=
  if path.isEmpty then .error .missing
  else if pathLimit < path.utf8ByteSize then .error .nameTooLong
  else f.walk (start path) (split '/' path)

/-- The fault of an obstacle on a path. -/
def obstacleFault (path : String) : Obstacle → Fault
  | .missing => .noFile s!"[Errno 2] No such file or directory: {quoted path}"
  | .fileInBetween => .notDirectory s!"[Errno 20] Not a directory: {quoted path}"
  | .nameTooLong => .fileRefused s!"[Errno 36] File name too long: {quoted path}"

/-- The fault of a folder where a file is expected. -/
def folderFault (path : String) : Fault := .isDirectory s!"[Errno 21] Is a directory: {quoted path}"

/-- Whether a path leads somewhere. A path with a null character does not; one that is too long is
refused. -/
def exists? (f : Folder) (path : String) : Except Fault Bool :=
  if path.contains '\x00' then .ok false
  else match f.find path with
    | .ok _ => .ok true
    | .error .nameTooLong => .error (obstacleFault path .nameTooLong)
    | .error _ => .ok false

/-- The text of a file, if there is one under a path. -/
def textAt? (f : Folder) (path : String) : Except Fault (Option String) :=
  if path.contains '\x00' then .ok none
  else match f.find path with
    | .ok (.file _ text) => .ok (some text)
    | .error .nameTooLong => .error (obstacleFault path .nameTooLong)
    | _ => .ok none

/-- The fault of a path with a null character. -/
def nullFault : Fault := .badValue "embedded null byte"

/-- The text of the file under a path. -/
def open_ (f : Folder) (path : String) : Except Fault String :=
  if path.contains '\x00' then .error nullFault
  else match f.find path with
    | .ok (.file _ text) => .ok text
    | .ok _ => .error (folderFault path)
    | .error obstacle => .error (obstacleFault path obstacle)

/-- The components under which a file is written: those of the file that a path leads to, or else of
a new one in the folder that the path leads to but for its last component. -/
def target (f : Folder) (path : String) : Except Fault (List String) :=
  match f.find path with
  | .ok (.file parts _) => .ok parts
  | .ok _ => .error (folderFault path)
  | .error .missing =>
    match f.walk (start path) (split '/' path).dropLast with
    | .ok (.folder parts) =>
      if path.isEmpty then .error (obstacleFault path .missing)
      else .ok (parts ++ (split '/' path).getLast?.toList)
    | _ => .error (obstacleFault path .missing)
  | .error obstacle => .error (obstacleFault path obstacle)

/-- Writes a file under a path. The folder that it lies in must exist. -/
def write (f : Folder) (path text : String) : Except Fault Folder :=
  if path.contains '\x00' then .error nullFault
  else do return f.put (← f.target path) text

end Folder

/-- A text with line ends of one kind: a carriage return, alone or before a line feed, ends a line
as a line feed does. -/
def unifyLineEnds : List Char → List Char
  | '\r' :: '\n' :: rest => '\n' :: unifyLineEnds rest
  | '\r' :: rest => '\n' :: unifyLineEnds rest
  | c :: rest => c :: unifyLineEnds rest
  | [] => []

/-- The text of the file under a path, with line ends of one kind. -/
def Folder.readText (f : Folder) (path : String) : Except Fault String := do
  return String.ofList (unifyLineEnds (← f.open_ path).toList)

/-! ## Uploads and safe paths -/

/-- Describes a file of a folder as an upload. A path without a file gives an invalid upload. -/
def Folder.upload (f : Folder) (path : String) (mediaType clientName : Option String) :
    Except Fault Upload := do
  let location := Location.ofPath path
  match ← f.textAt? location.text with
  | none =>
    return { path := location.text, size := 0, valid := false, mediaType, clientName }
  | some text =>
    let given := clientName.filter fun n => !n.isEmpty
    return { path := location.text, size := text.utf8ByteSize, valid := true, mediaType
             clientName := some (given.getD location.name) }

/-- The greatest number of characters of a path that is given from outside. -/
def safePathLimit : Nat := 4096

/-- Checks a path that is given from outside and trims it; `what` says what the path is for. -/
def safePath (v : Value) (what : String) : Except Fault String :=
  match v with
  | .text s =>
    let path := trim s
    if s.isEmpty then .error (.unsafeInput s!"{what} must be a non-empty string")
    else if path.isEmpty then
      .error (.unsafeInput s!"{what} cannot be empty or whitespace-only")
    else if path.contains '\x00' then .error (.unsafeInput s!"{what} contains null bytes")
    else if safePathLimit < path.length then
      .error (.unsafeInput s!"{what} exceeds maximum length of 4096 characters")
    else .ok path
  | _ => .error (.unsafeInput s!"{what} must be a non-empty string")

end PayloadCheck
