import PayloadCheck.Check.Basic

/-!
# Catalogues of checks

A catalogue holds checks under their keys. A check registered later replaces an earlier one of the
same key and takes its place in the order.
-/

namespace PayloadCheck.Check

open PayloadCheck.Rule

/-- Checks under their keys. -/
structure Catalogue where
  checks : FieldMap Check

namespace Catalogue

/-- The catalogue without checks. -/
def empty : Catalogue := ⟨[]⟩

/-- Registers a check. -/
def register (c : Catalogue) (check : Check) : Catalogue := ⟨c.checks.insert check.key check⟩

/-- Registers several checks, in order. -/
def extend (c : Catalogue) (checks : List Check) : Catalogue := checks.foldl register c

/-- The catalogue of the given checks. -/
def ofList (checks : List Check) : Catalogue := empty.extend checks

/-- The number of checks. -/
def size (c : Catalogue) : Nat := c.checks.length

/-- The keys, in order. -/
def keys (c : Catalogue) : List String := c.checks.keys

/-- The check that a name finds. -/
def find? (c : Catalogue) (name : String) : Option Check := c.checks.get? (Rule.key name)

/-- Whether a name finds a check. -/
def has (c : Catalogue) (name : String) : Bool := (c.find? name).isSome

/-- The check of a rule. -/
def lookUp (c : Catalogue) (rule : Spec) (field : String) : Except Fault Check :=
  match c.find? rule.name with
  | some check => .ok check
  | none => .error (.unknownRule rule.readable field)

/-- Order of names and arities: by name, then by arity. -/
def inOrder (a b : String × Nat) : Bool :=
  if a.1 = b.1 then a.2 ≤ b.2 else a.1 < b.1

/-- Names and arities of the checks, in alphabetical order. -/
def describe (c : Catalogue) : List (String × Nat) :=
  (c.checks.map fun (_, check) => (check.name, check.arity)).mergeSort inOrder

/-- Finds the first rule that has no check. -/
def checkKnown (c : Catalogue) : RuleMap → Except Fault Unit
  | [] => .ok ()
  | (field, rules) :: rest => do
    rules.forM fun rule => (fun _ => ()) <$> c.lookUp rule field
    c.checkKnown rest

end Catalogue

/-- The name under which a check of the caller's own is registered. -/
def ownName (name : String) : String := readable (identifier name)

/-- What a catalogue is extended by: checks as they stand, or under names of the caller's own what is
to be run and how many parameters that needs. -/
inductive Extension where
  | checks (checks : List Check)
  | own (entries : FieldMap (Nat × (Context → String → Value → List String → Verdict)))

/-- The checks of an extension. -/
def Extension.toChecks : Extension → List Check
  | checks cs => cs
  | own entries => entries.map fun (name, arity, run) => ⟨ownName name, arity, run⟩

/-- The catalogue with an extension. -/
def Catalogue.extendBy (c : Catalogue) (e : Extension) : Catalogue := c.extend e.toChecks

end PayloadCheck.Check
