import PayloadCheck.FieldMap
import PayloadCheck.Value.Path

/-!
# Bags

A payload is parted once into plain data and files; both bags keep the order of the payload. The
value at a path is sought among the data first.
-/

namespace PayloadCheck.Check

/-- A parted payload, and what counts as a file. -/
structure Bags where
  data : FieldMap Value
  files : FieldMap Value
  isFile : Value → Bool

/-- Only uploads are files. -/
def isUpload : Value → Bool
  | .upload _ => true
  | _ => false

/-- A bag as one value. -/
def bagValue (bag : FieldMap Value) : Value := .map (bag.map fun (k, v) => (.text k, v))

namespace Bags

/-- Parts a payload. -/
def ofPayload (payload : FieldMap Value) (isFile : Value → Bool := isUpload) : Bags :=
  { data := payload.filter fun (_, v) => !isFile v
    files := payload.filter fun (_, v) => isFile v
    isFile }

/-- The value at a path among the data. -/
def dataValue (b : Bags) (path : String) : Except Fault Value := (bagValue b.data).get path

/-- The value at a path among the files. -/
def fileValue (b : Bags) (path : String) : Except Fault Value := (bagValue b.files).get path

/-- The value at a path: among the data, else among the files. -/
def value (b : Bags) (path : String) : Except Fault Value := do
  match ← b.dataValue path with
  | .absent => b.fileValue path
  | v => return v

/-- Whether a path leads to anything, whatever the value. -/
def isSubmitted (b : Bags) (path : String) : Except Fault Bool := do
  return !(← b.value path).isAbsent

end Bags

end PayloadCheck.Check
