import PayloadCheck.Folder
import PayloadCheck.Json.Reading

/-!
# Payload files

A payload is an object of JSON. A field that is an object with the one name `$file` stands for the
upload of that file.
-/

namespace PayloadCheck.Command

/-- The name that marks an upload. -/
def fileMark : String := "$file"

/-- The fault of an upload whose path is no text. -/
def notAPath (v : Value) : Fault :=
  .wrongKind s!"expected str, bytes or os.PathLike object, not {v.kind}"

/-- What stands for the path of a field that is marked as an upload. -/
def markedPath? : Value → Option Value
  | .map [(.text name, path)] => if name == fileMark then some path else none
  | _ => none

/-- Reads a field: an upload where it is marked as one. -/
def readField (folder : Folder) (v : Value) : Except Fault Value :=
  match markedPath? v with
  | some (.text path) => .upload <$> folder.upload path none none
  | some other => .error (notAPath other)
  | none => .ok v

/-- Reads the fields of a payload, in order. -/
def readFields (folder : Folder) : List (Value × Value) → Except Fault (FieldMap Value)
  | [] => .ok []
  | (.text name, v) :: rest => do
    let v ← readField folder v
    return (name, v) :: (← readFields folder rest)
  | _ :: rest => readFields folder rest

/-- Reads the text of a payload. -/
def readPayloadText (folder : Folder) (text : String) : Except Fault (FieldMap Value) :=
  match Json.read text with
  | .ok (.map entries) => readFields folder entries
  | .ok _ => .error (.configuration "Payload must be a JSON object")
  | .error (.malformed detail) => .error (.configuration s!"Payload is not valid JSON: {detail}")
  | .error (.number outside) => .error outside.fault

/-- Reads the payload under a path; a single dash stands for the standard input. -/
def readPayload (folder : Folder) (input path : String) : Except Fault (FieldMap Value) := do
  if path == "-" then readPayloadText folder input
  else readPayloadText folder (← folder.readText (← safePath (.text path) "data"))

/-- The paths of the uploads that the text of a payload marks. -/
def markedPaths (text : String) : List String :=
  match Json.read text with
  | .ok (.map entries) => entries.filterMap fun (_, v) =>
    match markedPath? v with
    | some (.text path) => some path
    | _ => none
  | _ => []

end PayloadCheck.Command
