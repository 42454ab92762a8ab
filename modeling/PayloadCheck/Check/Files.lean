import PayloadCheck.Check.Basic
import PayloadCheck.Media.Kind

/-!
# Files

Rules on the kinds of uploaded files.
-/

namespace PayloadCheck.Check

open PayloadCheck.Text

/-- The endings of pictures. -/
def pictureEndings : List String := ["jpeg", "png", "gif", "bmp"]

/-- An ending in small letters without its points. -/
def bareEnding (ending : String) : String :=
  String.ofList ((lower ending).toList.dropWhile (· == '.'))

/-- Whether a value is a complete upload whose kind has one of the endings. -/
def hasEnding (c : Context) (v : Value) (endings : List String) : Except Fault Bool :=
  if c.bags.isFile v then
    match v with
    | .upload u =>
      if u.valid && !u.path.isEmpty then do
        let allowed := endings.map bareEnding
        return (← u.endings).any allowed.contains
      else .ok false
    | _ => .error (lacks v "is_valid")
  else .ok false

/-- The checks on files. -/
def fileChecks : List Check :=
  [.deciding "mimes" 1 fun c _ v ps => hasEnding c v ps,
   .deciding "image" 0 fun c _ v _ => hasEnding c v pictureEndings]

end PayloadCheck.Check
