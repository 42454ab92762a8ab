import PayloadCheck.Rule.RuleMap
import PayloadCheck.Value.Fit

/-!
# Rule sets

A rule set has a name, rules for its fields, messages, and names under which messages show the
fields. Merging appends the rules of the second set to those of the first, field by field, and
lets the messages and shown names of the second set win.
-/

namespace PayloadCheck.Rule

open PayloadCheck.Text

/-- A rule as a rule set lists it. -/
inductive Entry where
  | token (text : String)
  | spec (spec : Spec)
deriving DecidableEq, Repr, Inhabited

/-- The rules of a field: tokens in one text, or a list. -/
inductive Entries where
  | joined (text : String)
  | listed (entries : List Entry)
deriving DecidableEq, Repr, Inhabited

/-- A rule as a value. -/
def Entry.toValue : Entry → Value
  | token s => .text s
  | spec s => .spec s

namespace Entries

/-- The rules of a field one by one; a text is cut at its bars. -/
def toList : Entries → List Entry
  | joined s => (split '|' s).map .token
  | listed entries => entries

/-- The rules of a field as a value. -/
def toValue : Entries → Value
  | joined s => .text s
  | listed entries => .list (entries.map Entry.toValue)

end Entries

/-- A named set of rules and messages. -/
structure RuleSet where
  name : String
  name_ne : name ≠ ""
  rules : FieldMap Entries
  messages : FieldMap String
  names : FieldMap String
deriving DecidableEq, Repr

namespace RuleSet

/-- The rules as they are declared to an engine. -/
def declared (s : RuleSet) : Declared :=
  s.rules.map fun (field, entries) => (field, entries.toValue)

theorem joined_name_ne (a b : String) : a ++ "+" ++ b ≠ "" := by
  intro h
  have := congrArg String.toList h
  simp at this

/-- Appends the rules of a field. -/
def append (rules : FieldMap Entries) (field : String) (more : Entries) : FieldMap Entries :=
  rules.alter field fun old => .listed ((old.map Entries.toList).getD [] ++ more.toList)

/-- Both sets in one. It has the given name, or both names with a plus between them. -/
def merge (a b : RuleSet) (name : String := "") : RuleSet :=
  let rules := a.rules.map fun (field, entries) => (field, Entries.listed entries.toList)
  let rest := (b.rules.foldl (fun rules (field, more) => append rules field more) rules,
    FieldMap.merge a.messages b.messages, FieldMap.merge a.names b.names)
  if h : name ≠ "" then ⟨name, h, rest.1, rest.2.1, rest.2.2⟩
  else ⟨a.name ++ "+" ++ b.name, joined_name_ne a.name b.name, rest.1, rest.2.1, rest.2.2⟩

end RuleSet

/-! ## Values as rule sets -/

/-- A specification among the rules of a field, given as one or by its fields. -/
def Spec.fit : Value → Fit Spec
  | .spec s => .fits s
  | .map entries =>
    Spec.ofFields (entries.filterMap fun (k, v) =>
      match k with
      | .text name => some (name, v)
      | _ => none)
  | _ => .misfits 1

/-- A rule in a list. What is neither a text nor a specification is counted for both. -/
def Entry.fit (v : Value) : Fit Entry :=
  match v.text? with
  | some s => .fits (.token s)
  | none =>
    match Spec.fit v with
    | .fits s => .fits (.spec s)
    | .misfits n => .misfits (n + 1)

/-- The rules of a field. What is neither a text nor a list of rules is counted for both. -/
def Entries.fit (v : Value) : Fit Entries :=
  match v.text? with
  | some s => .fits (.joined s)
  | none =>
    match v.fitItems Entry.fit with
    | .fits entries => .fits (.listed entries)
    | .misfits n => .misfits (n + 1)

/-- Values of one kind under the names of fields. -/
def fitFields {α : Type} (kind : Value → Fit α) (fields : FieldMap Value) : Fit (FieldMap α) :=
  .all (fields.map fun (field, v) => (kind v).map fun a => (field, a))

/-- A name that is not empty. -/
def fitSetName (name : String) : Fit { name : String // name ≠ "" } :=
  if h : name ≠ "" then .fits ⟨name, h⟩ else .misfits 1

/-- A rule set of the given values. -/
def RuleSet.ofValues (name : String) (rules messages names : FieldMap Value) :
    Except Fault RuleSet :=
  (((fitSetName name).both
    ((fitFields Entries.fit rules).both
      ((fitFields Value.fitText messages).both (fitFields Value.fitText names)))).map
        fun (name, rules, messages, names) => ⟨name.1, name.2, rules, messages, names⟩).orFault
          "RuleSet"

/-- A rule set of parts that fit; only the name may be wrong. -/
def RuleSet.ofParts (name : String) (rules : FieldMap Entries) (messages names : FieldMap String) :
    Except Fault RuleSet :=
  ((fitSetName name).map fun name => ⟨name.1, name.2, rules, messages, names⟩).orFault "RuleSet"

end PayloadCheck.Rule
