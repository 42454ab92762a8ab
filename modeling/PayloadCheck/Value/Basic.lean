import PayloadCheck.Media.Upload
import PayloadCheck.Number.Basic
import PayloadCheck.Rule.Spec
import PayloadCheck.Time.Moment

/-!
# Values

The values that a payload may hold, a rule map may list and a configuration may contain. A map
keeps its entries in the order in which their keys first came.
-/

namespace PayloadCheck

open PayloadCheck.Time

/-- A value. `absent` stands for what was not submitted, as against `null`. -/
inductive Value where
  | absent
  | null
  | bool (b : Bool)
  | int (i : Int)
  | double (d : Double)
  | decimal (d : Decimal)
  | text (s : String)
  | bytes (bs : List UInt8)
  | date (d : Date)
  | moment (m : Moment)
  | list (items : List Value)
  | tuple (items : List Value)
  | set (items : List Value)
  | map (entries : List (Value × Value))
  | upload (u : Upload)
  | spec (s : Rule.Spec)
deriving Inhabited

namespace Value

/-- The name of a value's kind. -/
def kind : Value → String
  | absent => "_Absent"
  | null => "NoneType"
  | bool _ => "bool"
  | int _ => "int"
  | double _ => "float"
  | decimal _ => "decimal.Decimal"
  | text _ => "str"
  | bytes _ => "bytes"
  | date _ => "datetime.date"
  | moment _ => "datetime.datetime"
  | list _ => "list"
  | tuple _ => "tuple"
  | set _ => "set"
  | map _ => "dict"
  | upload _ => "UploadedFile"
  | spec _ => "RuleSpec"

/-- The name of a value's kind without the name of its family. -/
def shortKind : Value → String
  | decimal _ => "Decimal"
  | date _ => "date"
  | moment _ => "datetime"
  | v => v.kind

/-- Whether a value is a text. -/
def isText : Value → Bool
  | text _ => true
  | _ => false

/-- Whether a value is missing: not submitted at all. -/
def isAbsent : Value → Bool
  | absent => true
  | _ => false

/-- Whether a value counts as true: nothing, zero and what is empty do not. -/
def truth : Value → Bool
  | absent | null => false
  | bool b => b
  | int i => i != 0
  | double d => !d.isZero
  | decimal d => !d.isZero
  | text s => !s.isEmpty
  | bytes bs => !bs.isEmpty
  | list items | tuple items | set items => !items.isEmpty
  | map entries => !entries.isEmpty
  | date _ | moment _ | upload _ | spec _ => true

end Value

end PayloadCheck
