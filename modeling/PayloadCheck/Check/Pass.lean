import PayloadCheck.Check.Applicability
import PayloadCheck.Check.Catalogue
import PayloadCheck.Check.Outcome

/-!
# A pass

An engine is built from a payload, rules and messages. A pass walks through the fields and their
rules in the order of declaration. What a pass asks the store and what happens on the way is kept
in a journal, also when a fault ends the pass.
-/

namespace PayloadCheck.Check

open PayloadCheck.Presence PayloadCheck.Report PayloadCheck.Rule PayloadCheck.Time

/-- Everything that a pass depends on, the store apart. -/
structure Engine where
  name : String
  rules : RuleMap
  catalogue : Catalogue
  bags : Bags
  messages : Messages
  now : Moment

/-- What was asked of the store and what happened, in order. -/
structure Journal where
  asked : List Query := []
  events : List Event := []

namespace Journal

/-- Notes an event. -/
def note (j : Journal) (e : Event) : Journal := { j with events := j.events ++ [e] }

/-- Notes what came back from the store. -/
def noteReply (j : Journal) (q : Query) (r : Reply) : Journal :=
  { asked := j.asked ++ [q], events := j.events ++ r.events }

end Journal

/-- The whole number that a store's answer is, or can be read as. -/
def countOf : Value → Except Fault Int
  | .int i => .ok i
  | .bool b => .ok (if b then 1 else 0)
  | .double d => d.truncated
  | .decimal (.finite s m e) =>
    .ok (Double.signed s
      (if 0 ≤ e then m * Number.tenPow e.toNat else m / Number.tenPow (-e).toNat))
  | .decimal (.infinite _) => .error (.outOfRange "cannot convert Infinity to integer")
  | .decimal (.undefined ..) => .error (.badValue "cannot convert NaN to integer")
  | .text s => Value.integerOf s
  | .bytes bs =>
    match Number.readWhole (String.ofList (bs.map fun b => Char.ofNat b.toNat)) with
    | .ok i => .ok i
    | .error _ =>
      .error (.badValue s!"invalid literal for int() with base 10: {Text.quotedBytes bs}")
  | v => .error (.wrongKind s!"int() argument must be a string, a bytes-like object or a real number, not '{v.kind}'")

/-- Turns a fault of the store into one that says so; the library's own faults stay as they
are. -/
def storeFault (fault : Fault) : Fault :=
  if fault.isOwn then fault
  else .verifierAfter s!"Presence verifier failed: {fault.message}" fault

/-- Asks the store for a count. -/
def ask (verifier : Verifier) (q : Query) (j : Journal) : Except Fault Int × Journal :=
  let reply := verifier.reply j.asked q
  let j := j.noteReply q reply
  match reply.answer.bind countOf with
  | .ok count => (.ok count, j)
  | .error fault =>
    if fault.isOwn then (.error fault, j)
    else (.error (storeFault fault), j.note (.storeFailed fault.message))

namespace Engine

/-- What the checks of a pass see. -/
def context (e : Engine) (hasVerifier : Bool) : Context := ⟨e.bags, e.rules, hasVerifier, e.now⟩

/-- Runs the check of a rule. -/
def dispatch (e : Engine) (verifier : Option Verifier) (field : String) (v : Value) (rule : Spec)
    (j : Journal) : Except Fault Bool × Journal :=
  match e.catalogue.lookUp rule field with
  | .error fault => (.error fault, j)
  | .ok check =>
    if rule.parameters.length < check.arity then
      (.error (.tooFewParameters rule.readable check.arity rule.parameters.length), j)
    else match check.run (e.context verifier.isSome) field v rule.parameters with
      | .decided b => (.ok b, j)
      | .refused fault => (.error fault, j)
      | .asks q judge => match verifier with
        | none => (.error .noVerifier, j)
        | some verifier =>
          let (count, j) := ask verifier q j
          (judge <$> count, j)

/-- Runs one rule of a field, if it applies, and records its failure. -/
def evaluate (e : Engine) (verifier : Option Verifier) (field : String) (rule : Spec)
    (rules : List Spec) (record : Record) (j : Journal) : Except Fault Record × Journal :=
  match e.bags.value field with
  | .error fault => (.error fault, j)
  | .ok v =>
    let skip := skip? rule field v rules (!v.isAbsent)
    let j := j.note (.considered field rule.readable skip)
    if skip.isSome then (.ok record, j)
    else match e.dispatch verifier field v rule j with
      | (.error fault, j) => (.error fault, j)
      | (.ok true, j) => (.ok record, j)
      | (.ok false, j) => match record.add e.messages field rule with
        | .error fault => (.error fault, j)
        | .ok record => (.ok record, j.note (.failed e.name rule.readable))

/-- Every field and rule with the rules of the field, in the order of declaration. -/
def pairs (rules : RuleMap) : List (String × Spec × List Spec) :=
  rules.flatMap fun (field, specs) => specs.map fun s => (field, s, specs)

/-- Runs rules one after the other until a fault ends it. -/
def evaluateAll (e : Engine) (verifier : Option Verifier) :
    List (String × Spec × List Spec) → Record → Journal → Except Fault Record × Journal
  | [], record, j => (.ok record, j)
  | (field, rule, rules) :: rest, record, j =>
    match e.evaluate verifier field rule rules record j with
    | (.error fault, j) => (.error fault, j)
    | (.ok record, j) => e.evaluateAll verifier rest record j

/-- Runs one pass. -/
def run (e : Engine) (verifier : Option Verifier) (asked : List Query) :
    Except Fault Outcome × Journal :=
  match e.evaluateAll verifier (pairs e.rules) {} { asked } with
  | (.ok record, j) =>
    let outcome := Outcome.ofRecord record
    (.ok outcome, j.note (.passEnded e.name e.rules.length outcome.failures.length))
  | (.error fault, j) =>
    (.error fault,
      if fault.isConfiguration then j.note (.misconfigured e.name .pass fault) else j)

end Engine

/-- What an engine is built from. -/
structure Setup where
  payload : FieldMap Value
  rules : Declared
  messages : FieldMap String := []
  names : FieldMap String := []
  name : String := "adhoc"
  catalogue : Catalogue
  isFile : Value → Bool := isUpload
  now : Moment

/-- Reads the rules and makes sure that each has a check. -/
def Setup.readRules (s : Setup) : Except Fault RuleMap := do
  let rules ← readDeclared s.rules
  s.catalogue.checkKnown rules
  return rules

/-- Builds an engine. A fault in the rules is noted before anything of the payload is looked
at. -/
def Setup.build (s : Setup) : Except Fault Engine × List Event :=
  match s.readRules with
  | .ok rules =>
    (.ok { name := s.name, rules, catalogue := s.catalogue, now := s.now
           bags := .ofPayload s.payload s.isFile
           messages := ⟨s.messages, s.names⟩ }, [])
  | .error fault =>
    (.error fault,
      if fault.isConfiguration then [.misconfigured s.name .construction fault] else [])

end PayloadCheck.Check
