import PayloadCheck.Check.Bags
import PayloadCheck.Check.Size
import PayloadCheck.Presence.Query

/-!
# Checks

A check decides whether a value satisfies a rule. It sees the bags and the rules of the other
fields. Most checks decide at once; those about stored records ask a query and judge by the count.
-/

namespace PayloadCheck.Check

open PayloadCheck.Rule PayloadCheck.Presence PayloadCheck.Time

/-- What a check sees beside the value. -/
structure Context where
  bags : Bags
  rules : RuleMap
  hasVerifier : Bool
  now : Moment

namespace Context

/-- The value of a field. -/
def value (c : Context) (field : String) : Except Fault Value := c.bags.value field

/-- The value of a field among the data. -/
def dataValue (c : Context) (field : String) : Except Fault Value := c.bags.dataValue field

/-- The rules of a field. -/
def rulesFor (c : Context) (field : String) : List Spec := (c.rules.get? field).getD []

/-- The size of a value of a field. -/
def size (c : Context) (field : String) (v : Value) : Except Fault Number :=
  sizeOf c.bags.isFile (c.rulesFor field) v

end Context

/-- What a check says: a decision, a fault, or a query with the judgement of its count. -/
inductive Verdict where
  | decided (passes : Bool)
  | refused (fault : Fault)
  | asks (query : Query) (judge : Int → Bool)

/-- The verdict of a check that decides at once. -/
def Verdict.of : Except Fault Bool → Verdict
  | .ok b => .decided b
  | .error fault => .refused fault

/-- A check under its name, with the number of parameters that it needs. -/
structure Check where
  name : String
  arity : Nat
  run : Context → (field : String) → Value → (parameters : List String) → Verdict

/-- The key under which a check is found. -/
def Check.key (c : Check) : String := Rule.key c.name

/-- A check that decides at once. -/
def Check.deciding (name : String) (arity : Nat)
    (decide : Context → String → Value → List String → Except Fault Bool) : Check :=
  ⟨name, arity, fun c field v ps => .of (decide c field v ps)⟩

/-- The parameter at a position. -/
def parameter (ps : List String) (i : Nat) : Except Fault String :=
  match ps[i]? with
  | some p => .ok p
  | none => .error (.noParameter i)

/-- The parameter at a position that may be left out; it is read where there are that many. -/
def parameterIfGiven (ps : List String) (i : Nat) : Except Fault (Option String) :=
  if i < ps.length then some <$> parameter ps i else .ok none

theorem parameterIfGiven_eq (ps : List String) (i : Nat) : parameterIfGiven ps i = .ok ps[i]? := by
  unfold parameterIfGiven parameter
  split
  · next h =>
    rw [List.getElem?_eq_getElem h]
    rfl
  · next h => rw [List.getElem?_eq_none (Nat.le_of_not_lt h)]

/-- The number that a parameter of a rule denotes. -/
def numericParameter (p rule : String) : Except Fault Number :=
  if Value.isNumericText p then Value.numberOfText p
  else .error (.malformedRule rule s!"Parameter '{p}' must be numeric")

end PayloadCheck.Check
