import PayloadCheck.FieldMap
import PayloadCheck.Value.Scalar

/-!
# Fitting values to records

A record has fields of fixed kinds, and values given for them either fit or do not. All values
that do not fit are counted, not only the first. Some kinds are converted on the way: a text of
digits fits where a whole number is wanted, and `yes` where a truth value is.
-/

namespace PayloadCheck

open PayloadCheck.Text PayloadCheck.Number

/-- What fits, or how many values do not. -/
inductive Fit (α : Type) where
  | fits (value : α)
  | misfits (count : Nat)
deriving DecidableEq, Repr

namespace Fit

variable {α β : Type}

/-- Puts two parts together; what does not fit in either is counted. -/
def both : Fit α → Fit β → Fit (α × β)
  | fits a, fits b => fits (a, b)
  | fits _, misfits n => misfits n
  | misfits m, fits _ => misfits m
  | misfits m, misfits n => misfits (m + n)

/-- Changes what fits. -/
def map (f : α → β) : Fit α → Fit β
  | fits a => fits (f a)
  | misfits n => misfits n

/-- Asks for more of what fits. -/
def andThen (f : α → Fit β) : Fit α → Fit β
  | fits a => f a
  | misfits n => misfits n

/-- Puts several parts together, in order. -/
def all : List (Fit α) → Fit (List α)
  | [] => fits []
  | p :: rest => (both p (all rest)).map fun (a, as) => a :: as

/-- What fits, if anything does. -/
def ofOption : Option α → Fit α
  | some a => fits a
  | none => misfits 1

/-- What fits, or the fault of a record of the given name. -/
def orFault (model : String) : Fit α → Except Fault α
  | fits a => .ok a
  | misfits n => .error (.invalidModel n model)

end Fit

namespace Value

/-! ## Kinds of fields -/

/-- The text that bytes encode. -/
def decodeBytes (bs : List UInt8) : Option String := String.fromUTF8? ⟨bs.toArray⟩

/-- A text, or bytes that encode one. -/
def text? : Value → Option String
  | text s => some s
  | bytes bs => decodeBytes bs
  | _ => none

/-- A text. -/
def fitText (v : Value) : Fit String := .ofOption v.text?

/-- A text that is not empty. -/
def fitName (v : Value) : Fit String :=
  .ofOption (v.text?.filter fun s => !s.isEmpty)

/-- A text or nothing. -/
def fitOptionalText : Value → Fit (Option String)
  | null => .fits none
  | v => v.fitText.map some

/-- The whole number that a text of plain digits denotes; a fraction of zeros may follow. -/
def plainWhole? (s : String) : Option Int :=
  let cs := trimChars s.toList
  let (negative, digits) := takeSign cs
  let (front, fraction) := (cut? '.' digits).getD (digits, [])
  if fraction.all (· == '0') && front.all (fun c => isAsciiDigit c || c == '_') then
    match digitValues? front with
    | some ds =>
      if ds.length ≤ maxDigits then some (Double.signed negative (ofDigits ds)) else none
    | none => none
  else none

/-- The whole number that a value stands for: a number without a fraction, a truth value, or a
text of digits. -/
def whole? : Value → Option Int
  | bool b => some (if b then 1 else 0)
  | int i => some i
  | double d =>
    match d.isInteger, d.truncate? with
    | true, some i => if -(twoPow 63 : Int) < i ∧ i < twoPow 63 then some i else none
    | _, _ => none
  | decimal (.finite s m e) =>
    if 0 ≤ e then some (Double.signed s (m * tenPow e.toNat))
    else if m % tenPow (-e).toNat = 0 then some (Double.signed s (m / tenPow (-e).toNat))
    else none
  | v => v.text?.bind plainWhole?

/-- A whole number that is not negative. -/
def fitSize (v : Value) : Fit Nat :=
  .ofOption ((v.whole?.filter fun i => 0 ≤ i).map Int.toNat)

/-- The words for true. -/
def trueWords : List String := ["1", "on", "t", "true", "y", "yes"]

/-- The words for false. -/
def falseWords : List String := ["0", "off", "f", "false", "n", "no"]

/-- The truth value that a value stands for: zero and one, and some words in letters of either
case. -/
def bool? : Value → Option Bool
  | bool b => some b
  | v =>
    match v.text? with
    | some s =>
      let word := String.ofList
        (s.toList.map fun c => if isAsciiUpper c then Char.ofNat (c.toNat + 32) else c)
      if trueWords.contains word then some true
      else if falseWords.contains word then some false
      else none
    | none =>
      match v.whole? with
      | some 0 => some false
      | some 1 => some true
      | _ => none

/-- A truth value. -/
def fitBool (v : Value) : Fit Bool := .ofOption v.bool?

/-- The items of a value that has items in an order, maps left out. -/
def items? : Value → Option (List Value)
  | list items | tuple items | set items => some items
  | _ => none

/-- Items of one kind. -/
def fitItems {α : Type} (kind : Value → Fit α) (v : Value) : Fit (List α) :=
  match v.items? with
  | some items => .all (items.map kind)
  | none => .misfits 1

/-- Entries of one kind under texts. -/
def fitEntries {α : Type} (kind : Value → Fit α) (v : Value) : Fit (FieldMap α) :=
  match v with
  | map entries =>
    (Fit.all (entries.map fun (k, w) => k.fitText.both (kind w))).map FieldMap.ofList
  | _ => .misfits 1

/-! ## Fields -/

/-- A field that must be given. -/
def required {α : Type} (fields : FieldMap Value) (name : String) (kind : Value → Fit α) : Fit α :=
  match fields.get? name with
  | some v => kind v
  | none => .misfits 1

/-- A field that has a value when it is not given. -/
def withDefault {α : Type} (fields : FieldMap Value) (name : String) (default : α)
    (kind : Value → Fit α) : Fit α :=
  match fields.get? name with
  | some v => kind v
  | none => .fits default

end Value

/-! ## Records -/

/-- A rule specification of the given fields. -/
def Rule.Spec.ofFields (fields : FieldMap Value) : Fit Rule.Spec :=
  ((Value.required fields "rule_name" Value.fitName).both
    (Value.withDefault fields "parameters" [] (Value.fitItems Value.fitText))).map
      fun (name, parameters) => ⟨name, parameters⟩

/-- An upload of the given fields. -/
def Upload.ofFields (fields : FieldMap Value) : Fit Upload :=
  ((Value.required fields "path" Value.fitText).both
    ((Value.withDefault fields "size" 0 Value.fitSize).both
      ((Value.withDefault fields "valid" true Value.fitBool).both
        ((Value.withDefault fields "mime_type" none Value.fitOptionalText).both
          (Value.withDefault fields "original_name" none Value.fitOptionalText))))).map
            fun (path, size, valid, mediaType, clientName) =>
              { path, size, valid, mediaType, clientName }

end PayloadCheck
