import PayloadCheck.Fault
import PayloadCheck.Rule.Row
import PayloadCheck.Rule.Spec
import PayloadCheck.Text.Quoted

/-!
# Rule tokens

A token is written as a name, or as a name, a colon and parameters: `max:10`,
`digits_between:2,5`. Parameters form one row of fields, except those of `regex`, which are taken
as one whole pattern. What a token that is a rule looks like is said by `readToken_eq_some`.
-/

namespace PayloadCheck.Rule

open PayloadCheck.Text

/-- Whether the parameters of a rule name are taken whole. -/
def takesWhole (name : List Char) : Bool :=
  lower (String.ofList (trimChars name)) == "regex"

/-- The parameters written after a rule name. -/
def readParameters (name text : List Char) : Except Fault (List String) :=
  if takesWhole name then .ok [String.ofList text]
  else match Row.read text with
    | .ok fields => .ok (fields.map String.ofList)
    | .error fault =>
      let shown := quoted (String.ofList text)
      .error (.malformedRule (String.ofList name) s!"Cannot split parameters {shown}: {fault.message}")

/-- Reads a token; a blank one is no rule. -/
def readToken (token : String) : Except Fault (Option Spec) := do
  if allBlank token then return none
  let (name, parameters) ← match cut? ':' token.toList with
    | some (name, text) => do pure (name, ← readParameters name text)
    | none => pure (token.toList, [])
  let id := identifierChars name
  if id.isEmpty then throw (.malformedRule token "Rule token has no rule name")
  return some ⟨String.ofList id, parameters⟩

/-- A token that is read as a rule is a name alone, or a name, a colon and parameters. -/
theorem readToken_eq_some {token : String} {rule : Spec} (h : readToken token = .ok (some rule)) :
    (cut? ':' token.toList = none ∧ rule = ⟨identifier token, []⟩) ∨
      ∃ name text ps, cut? ':' token.toList = some (name, text) ∧
        readParameters name text = .ok ps ∧ rule = ⟨String.ofList (identifierChars name), ps⟩ := by
  have hname : ∀ {name : List Char} {ps : List String},
      (do
        if (identifierChars name).isEmpty then
          throw (.malformedRule token "Rule token has no rule name")
        return some ⟨String.ofList (identifierChars name), ps⟩ : Except Fault (Option Spec)) =
        .ok (some rule) → rule = ⟨String.ofList (identifierChars name), ps⟩ := by
    intro name ps hrule
    split at hrule
    · cases hrule
    · cases hrule
      rfl
  unfold readToken at h
  split at h
  · cases h
  cases hcut : cut? ':' token.toList with
  | none =>
    rw [hcut] at h
    exact Or.inl ⟨rfl, hname h⟩
  | some parts =>
    obtain ⟨name, text⟩ := parts
    rw [hcut] at h
    obtain ⟨ps, hread, hrule⟩ := Fault.bind_eq_ok_iff.mp h
    exact Or.inr ⟨name, text, ps, rfl, hread, hname hrule⟩

end PayloadCheck.Rule
