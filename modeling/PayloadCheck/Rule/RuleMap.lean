import PayloadCheck.FieldMap
import PayloadCheck.Rule.Token
import PayloadCheck.Value.Printer

/-!
# Rule maps

A rule map declares the rules of each field: one text of tokens separated by bars, one
specification, or a collection of tokens and specifications. Reading it gives every field its
specifications in order; blank tokens are passed over.
-/

namespace PayloadCheck.Rule

open PayloadCheck.Text

/-- Rules as they are declared, field by field. -/
abbrev Declared := FieldMap Value

/-- Specifications field by field. -/
abbrev RuleMap := FieldMap (List Spec)

/-- The items of a collection, in the order in which they are walked through. -/
def itemsOf : Value → Except Fault (List Value)
  | .list items | .tuple items | .set items => .ok items
  | .map entries => .ok (entries.map Prod.fst)
  | .bytes bs => .ok (bs.map fun b => .int b.toNat)
  | .upload u =>
    .ok [.tuple [.text "path", .text u.path], .tuple [.text "size", .int u.size],
      .tuple [.text "valid", .bool u.valid],
      .tuple [.text "mime_type", optional u.mediaType],
      .tuple [.text "original_name", optional u.clientName]]
  | v => .error (.wrongKind s!"'{v.kind}' object is not iterable")
where
  /-- A text or nothing. -/
  optional : Option String → Value
    | some s => .text s
    | none => .null

/-- Reads tokens one after the other. -/
def readTokens : List String → Except Fault (List Spec)
  | [] => .ok []
  | token :: rest => do
    let spec? ← readToken token
    return spec?.toList ++ (← readTokens rest)

/-- Reads the items of a collection one after the other. -/
def readItems : List Value → Except Fault (List Spec)
  | [] => .ok []
  | item :: rest => do
    let specs ← match item with
      | .text token => (·.toList) <$> readToken token
      | .spec s => pure [s]
      | v => do
        let shown ← v.shown
        throw (.malformedRule shown
          s!"Rules must be strings or RuleSpec objects, got {v.shortKind}")
    return specs ++ (← readItems rest)

/-- Reads the rules of one field. -/
def readRules : Value → Except Fault (List Spec)
  | .text s => readTokens (split '|' s)
  | .spec s => .ok [s]
  | v => do readItems (← itemsOf v)

/-- Reads the rules of all fields, in order. -/
def readDeclared : Declared → Except Fault RuleMap
  | [] => .ok []
  | (field, rules) :: rest => do
    let specs ← readRules rules
    return (field, specs) :: (← readDeclared rest)

end PayloadCheck.Rule
