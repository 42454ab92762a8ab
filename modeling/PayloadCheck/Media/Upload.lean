/-!
# Uploads

What is known of an uploaded file: where it is stored, its size in bytes, whether the upload was
complete, and what the sender says about its kind and name.
-/

namespace PayloadCheck

/-- An uploaded file. The path is empty when the upload produced no file. -/
structure Upload where
  path : String
  size : Nat := 0
  valid : Bool := true
  mediaType : Option String := none
  clientName : Option String := none
deriving DecidableEq, Repr, Inhabited

end PayloadCheck
