import PayloadCheck.Check.Basic

/-!
# Messages

The text for a failing rule is looked up under the field and the rule, then under the rule alone.
In it a colon and the name of a placeholder stand for what the rule supplies under that name; text
that is put in is not looked through again.
-/

namespace PayloadCheck.Check

open PayloadCheck.Rule PayloadCheck.Text

/-- The names of placeholders. -/
def placeholders : List String :=
  ["attribute", "values", "value", "min", "max", "size", "digits", "other", "date", "format"]

/-- What a rule supplies for placeholders. -/
inductive Supply where
  /-- The first parameter under a name. -/
  | first (name : String)
  /-- The first two parameters as bounds. -/
  | bounds
  /-- The first parameter as the name of another field. -/
  | other
  /-- The same, and the further parameters as its values. -/
  | otherValue
  /-- All parameters as values. -/
  | values
  /-- All parameters as names of fields. -/
  | fields
deriving DecidableEq, Repr

/-- What the rules supply, by their keys. -/
def supplies : List (String × Supply) :=
  [("size", .first "size"), ("min", .first "min"), ("max", .first "max"),
   ("digits", .first "digits"), ("between", .bounds), ("digitsbetween", .bounds),
   ("same", .other), ("different", .other), ("requiredif", .otherValue), ("in", .values),
   ("notin", .values), ("mimes", .values), ("requiredwith", .fields),
   ("requiredwithall", .fields), ("requiredwithout", .fields), ("requiredwithoutall", .fields),
   ("before", .first "date"), ("after", .first "date"), ("dateformat", .first "format")]

/-- Message texts and the names under which fields are shown. -/
structure Messages where
  texts : FieldMap String
  names : FieldMap String

/-- What is put in under each name. -/
def Supply.entries (supply : Supply) (ps : List String) (shown : String → String) :
    FieldMap String :=
  match supply, ps with
  | .first name, p :: _ => [(name, p)]
  | .bounds, lower :: upper :: _ => [("min", lower), ("max", upper)]
  | .other, p :: _ => [("other", shown p)]
  | .otherValue, [p] => [("other", shown p)]
  | .otherValue, p :: q :: more => [("other", shown p), ("value", joinTexts ", " (q :: more))]
  | .values, ps => [("values", joinTexts ", " ps)]
  | .fields, ps => [("values", joinTexts ", " (ps.map shown))]
  | _, _ => []

namespace Messages

/-- The name under which a field is shown. -/
def shownName (m : Messages) (field : String) : String := (m.names.get? field).getD field

/-- The text for a failing rule, as it is written. -/
def template (m : Messages) (field : String) (rule : Spec) : Except Fault String :=
  match m.texts.get? (field ++ "." ++ rule.readable) with
  | some t => .ok t
  | none => match m.texts.get? rule.readable with
    | some t => .ok t
    | none => .error (.noMessage field rule.readable)

/-- What a failing rule puts in under a name. -/
def supplied (m : Messages) (field : String) (rule : Spec) (name : String) : Option String :=
  if name = "attribute" then some (m.shownName field)
  else (supplies.lookup rule.key).bind fun s => (s.entries rule.parameters m.shownName).lookup name

/-- Puts in what is supplied for the placeholder after a colon. -/
def fill (supplied : String → Option String) (afterColon : List Char) : List Char :=
  let name := String.ofList (afterColon.takeWhile isWord)
  match if placeholders.contains name then supplied name else none with
  | some text => text.toList ++ afterColon.dropWhile isWord
  | none => ':' :: afterColon

/-- Puts in what is supplied for every placeholder of a text. -/
def fillAll (supplied : String → Option String) (template : List Char) : List Char :=
  match pieces ':' template with
  | [] => []
  | first :: rest => first ++ rest.flatMap (fill supplied)

/-- A text with what a failing rule puts in. A text without a colon is taken as it is. -/
def filled (m : Messages) (field : String) (rule : Spec) (template : String) : String :=
  if template.toList.contains ':' then
    String.ofList (fillAll (m.supplied field rule) template.toList)
  else template

/-- The text for a failing rule. -/
def resolve (m : Messages) (field : String) (rule : Spec) : Except Fault String := do
  return m.filled field rule (← m.template field rule)

end Messages

end PayloadCheck.Check
