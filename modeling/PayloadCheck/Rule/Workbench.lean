import PayloadCheck.Rule.Builder

/-!
# Builders that are changed in place

A builder at work is changed in place: its lists of rules, the table of them by fields and its maps
of texts stay where they are, and whoever has the place of one sees what others did to it. A rule
set is made of copies at places of its own. That what is in them fits is made sure when the set is
built; afterwards the set is looked at as it stands at its places.
-/

namespace PayloadCheck.Rule

/-- What is done to a builder. -/
inductive Step where
  | rule (field : String) (rule : Value) (parameters : List Value)
  | required (field : String)
  | between (field : String) (least greatest : Value)
  | regex (field : String) (pattern : Value)
  | message (key text : String)
  | shownName (field text : String)

/-- The places of what a builder or a rule set consists of: the table with the places of the rules
of each field, the messages, and the shown names. -/
structure Places where
  table : Nat
  messages : Nat
  names : Nat
deriving DecidableEq, Repr

/-- A builder, and all lists, tables and maps of texts by their places. -/
structure Workbench where
  name : String := "rules"
  lists : List (List Value) := []
  tables : List (FieldMap Nat) := [[]]
  texts : List (FieldMap String) := [[], []]
  own : Places := ⟨0, 0, 1⟩

/-- Work at a bench. What was changed when a fault ends it stays changed. -/
abbrev Work := ExceptT Fault (StateM Workbench)

/-- What work comes to, and the bench after it. -/
def Work.on {α : Type} (work : Work α) (w : Workbench) : Except Fault α × Workbench :=
  work.run.run w

namespace Workbench

/-- The rules at a place. -/
def rulesAt (w : Workbench) (place : Nat) : List Value := (w.lists[place]?).getD []

/-- The table at a place. -/
def tableAt (w : Workbench) (place : Nat) : FieldMap Nat := (w.tables[place]?).getD []

/-- The texts at a place. -/
def textsAt (w : Workbench) (place : Nat) : FieldMap String := (w.texts[place]?).getD []

/-- What stands at the places of a builder or of a rule set. -/
def contents (w : Workbench) (p : Places) : Builder where
  name := w.name
  rules := (w.tableAt p.table).map fun entry => (entry.1, w.rulesAt entry.2)
  messages := w.textsAt p.messages
  names := w.textsAt p.names

/-- A rule set as it stands at its places. -/
def look (w : Workbench) (p : Places) : Except Fault RuleSet := (w.contents p).build

/-! ### Steps -/

/-- The place of the rules of a field. A field without rules gets a list. -/
def openRules (field : String) : Work Nat := do
  let w ← get
  match (w.tableAt w.own.table).get? field with
  | some place => return place
  | none =>
    let place := w.lists.length
    set { w with
      lists := w.lists ++ [[]]
      tables := w.tables.modify w.own.table (·.insert field place) }
    return place

/-- Appends a rule to those of a field. -/
def appendRule (field : String) (rule : Value) : Work Unit := do
  let place ← openRules field
  modify fun w => { w with lists := w.lists.modify place (· ++ [rule]) }

/-- Adds a rule: as it stands, or with separate parameters. -/
def addRule (field : String) (rule : Value) (parameters : List Value) : Work Unit :=
  if parameters.isEmpty then appendRule field rule
  else do appendRule field (.spec (← ofExcept (Builder.specOf rule parameters)))

/-- Sets a text in one of the builder's maps. -/
def setText (which : Places → Nat) (key text : String) : Work Unit :=
  modify fun w => { w with texts := w.texts.modify (which w.own) (·.insert key text) }

/-! ### Rule sets -/

/-- Puts copies of the lists of a table at new places. -/
def copyLists : FieldMap Nat → Work (FieldMap Nat)
  | [] => return []
  | (field, place) :: rest => do
    let copy ← modifyGet fun w =>
      (w.lists.length, { w with lists := w.lists ++ [w.rulesAt place] })
    return (field, copy) :: (← copyLists rest)

/-- Puts a new table somewhere. -/
def putTable (table : FieldMap Nat) : Work Nat :=
  modifyGet fun w => (w.tables.length, { w with tables := w.tables ++ [table] })

/-- Puts a copy of a map of texts at a new place. -/
def copyTexts (place : Nat) : Work Nat :=
  modifyGet fun w => (w.texts.length, { w with texts := w.texts ++ [w.textsAt place] })

/-- Builds a rule set of copies. Copies of what does not fit stay behind. -/
def build : Work Places := do
  let w ← get
  let table ← putTable (← copyLists (w.tableAt w.own.table))
  let p : Places := ⟨table, ← copyTexts w.own.messages, ← copyTexts w.own.names⟩
  let _ ← ofExcept ((← get).look p)
  return p

end Workbench

namespace Step

open Workbench

/-- Does a step at a bench. -/
def perform : Step → Work Unit
  | rule field given parameters => addRule field given parameters
  | required field => addRule field (.text "required") []
  | between field least greatest =>
    match Builder.isBound least, Builder.isBound greatest with
    | true, true => addRule field (.text "between") [least, greatest]
    | true, false => addRule field (.text "min") [least]
    | false, true => addRule field (.text "max") [greatest]
    | false, false => pure ()
  | regex field pattern => addRule field (.text "regex") [pattern]
  | message key text => setText Places.messages key text
  | shownName field text => setText Places.names field text

end Step

/-- What a caller has a bench do. -/
inductive Action where
  | step (step : Step)
  | build

namespace Workbench

/-- The bench after an action. A fault goes to the caller, who may go on. -/
def afterAction (w : Workbench) : Action → Workbench
  | .step s => (s.perform.on w).2
  | .build => (build.on w).2

/-- The bench after several actions. -/
def after (w : Workbench) (actions : List Action) : Workbench := actions.foldl afterAction w

/-- The bench after steps alone. -/
def afterSteps (w : Workbench) (steps : List Step) : Workbench := w.after (steps.map .step)

/-- A bench builds a rule set. -/
def Builds (w : Workbench) (s : RuleSet) : Prop :=
  ∃ p, (build.on w).1 = .ok p ∧ (build.on w).2.look p = .ok s

end Workbench

end PayloadCheck.Rule
