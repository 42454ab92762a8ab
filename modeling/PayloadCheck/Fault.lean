/-!
# What can go wrong

Every fault is named for its cause. Faults of the configuration (rules, messages, wiring) and of
the store end a pass; they are never recorded as failures of the payload. A store may end with any
fault; what stops the whole program, as an interrupt does, is not one. A step after another is
reached only where the first succeeds (`bind_eq_ok_iff`, `bind_eq_error_iff`).
-/

namespace PayloadCheck

/-- A cause for which no answer can be given. -/
inductive Fault where
  /-- A rule or its parameters cannot be understood. -/
  | malformedRule (rule detail : String)
  /-- A rule has fewer parameters than its check needs. -/
  | tooFewParameters (rule : String) (needed given : Nat)
  /-- No check is registered for a rule; the field is empty where none is concerned. -/
  | unknownRule (rule field : String)
  /-- No message is written for a failing rule. -/
  | noMessage (field rule : String)
  /-- A rule asks the store, and there is none. -/
  | noVerifier
  /-- A rule set, a payload or the wiring is declared wrongly. -/
  | configuration (detail : String)
  /-- The store did not answer. -/
  | verifier (detail : String)
  /-- The store did not answer, because of another fault. -/
  | verifierAfter (detail : String) (cause : Fault)
  /-- A name or a path fails its safety check. -/
  | unsafeInput (detail : String)
  /-- A record is given fields that do not fit it. -/
  | invalidModel (count : Nat) (model : String)
  /-- A value has the right kind and the wrong content. -/
  | badValue (detail : String)
  /-- A value has the wrong kind. -/
  | wrongKind (detail : String)
  /-- A value lies outside the range that can be represented. -/
  | outOfRange (detail : String)
  /-- A value has no such property. -/
  | noProperty (detail : String)
  /-- A key is not in a catalogue. -/
  | noKey (detail : String)
  /-- A rule reads a parameter that it was not given. -/
  | noParameter (position : Nat)
  /-- A text or a template has no such part. -/
  | noPart (detail : String)
  /-- A regular expression is not well formed. -/
  | pattern (detail : String)
  /-- A file does not exist. -/
  | noFile (detail : String)
  /-- A directory stands where a file is expected. -/
  | isDirectory (detail : String)
  /-- A file stands where a directory is expected. -/
  | notDirectory (detail : String)
  /-- The operating system refuses a file. -/
  | fileRefused (detail : String)
  /-- The pool is used while it is closed. -/
  | poolClosed
  /-- The database refuses. -/
  | database (detail : String)
  /-- The store cannot be reached. -/
  | unreachable (detail : String)
  /-- A fault that a store derives from those of this library, neither of the configuration nor
  of the store. -/
  | derived (label detail : String)
  /-- Any other fault that reaches this library from outside. -/
  | foreign (label detail : String)
deriving DecidableEq, Repr, Inhabited

namespace Fault

/-- The text of a fault. -/
def message : Fault → String
  | malformedRule rule detail => s!"[{rule}] {detail}"
  | tooFewParameters rule needed given =>
    s!"[{rule}] Validation rule {rule} requires at least {needed} parameters, got {given}."
  | unknownRule rule field =>
    if field.isEmpty then s!"Unknown validation rule: {rule}"
    else s!"Unknown validation rule: {rule} (attribute '{field}')"
  | noMessage field rule => s!"{field}'s message undefined for rule '{rule}'"
  | noVerifier => "Presence verifier has not been set."
  | configuration detail => detail
  | verifier detail => detail
  | verifierAfter detail _ => detail
  | unsafeInput detail => detail
  | invalidModel count model =>
    if count = 1 then s!"1 validation error for {model}"
    else s!"{count} validation errors for {model}"
  | badValue detail => detail
  | wrongKind detail => detail
  | outOfRange detail => detail
  | noProperty detail => detail
  | noKey detail => detail
  | noParameter _ => "tuple index out of range"
  | noPart detail => detail
  | pattern detail => detail
  | noFile detail => detail
  | isDirectory detail => detail
  | notDirectory detail => detail
  | fileRefused detail => detail
  | poolClosed => "Connection pool is not open. Call open() first."
  | database detail => detail
  | unreachable detail => detail
  | derived _ detail => detail
  | foreign _ detail => detail

/-- The label under which a fault is counted and reported. -/
def label : Fault → String
  | malformedRule .. => "MalformedRuleError"
  | tooFewParameters .. => "InsufficientParametersError"
  | unknownRule .. => "UnknownRuleError"
  | noMessage .. => "UndefinedMessageError"
  | noVerifier => "MissingPresenceVerifierError"
  | configuration _ => "ConfigurationError"
  | verifier _ | verifierAfter .. => "PresenceVerifierError"
  | unsafeInput _ => "UnsafeInputError"
  | invalidModel .. => "ValidationError"
  | badValue _ => "ValueError"
  | wrongKind _ => "TypeError"
  | outOfRange _ => "OverflowError"
  | noProperty _ => "AttributeError"
  | noKey _ => "KeyError"
  | noParameter _ | noPart _ => "IndexError"
  | pattern _ => "error"
  | noFile _ => "FileNotFoundError"
  | isDirectory _ => "IsADirectoryError"
  | notDirectory _ => "NotADirectoryError"
  | fileRefused _ => "OSError"
  | poolClosed => "RuntimeError"
  | database _ => "OperationalError"
  | unreachable _ => "ConnectionError"
  | derived label _ => label
  | foreign label _ => label

/-- The fault that led to this one. -/
def cause? : Fault → Option Fault
  | verifierAfter _ cause => some cause
  | _ => none

/-- Faults of the configuration: those that are counted when they end a construction or a pass. -/
def isConfiguration : Fault → Bool
  | malformedRule .. | tooFewParameters .. | unknownRule .. | noMessage .. | noVerifier
  | configuration .. => true
  | _ => false

/-- Faults of the store. -/
def isVerifier : Fault → Bool
  | verifier .. | verifierAfter .. => true
  | _ => false

/-- Whether a fault is derived from those of this library. -/
def isDerived : Fault → Bool
  | derived .. => true
  | _ => false

/-- Faults that this library raises of itself or that are derived from its own, as against those
that reach it from outside. -/
def isOwn (f : Fault) : Bool := f.isConfiguration || f.isVerifier || f.isDerived

/-! ## Steps that may fail -/

variable {ε α β : Type}

theorem bind_eq_ok_iff {step : Except ε α} {next : α → Except ε β} {b : β} :
    (step >>= next) = .ok b ↔ ∃ a, step = .ok a ∧ next a = .ok b := by
  cases step with
  | error fault => simp [bind, Except.bind]
  | ok a => simp [bind, Except.bind]

theorem exists_error_iff {step : Except ε α} :
    (∃ fault, step = .error fault) ↔ ¬ ∃ a, step = .ok a := by
  cases step <;> simp

theorem bind_eq_error_iff {step : Except ε α} {next : α → Except ε β} {fault : ε} :
    (step >>= next) = .error fault ↔
      step = .error fault ∨ ∃ a, step = .ok a ∧ next a = .error fault := by
  cases step with
  | error fault => simp [bind, Except.bind]
  | ok a => simp [bind, Except.bind]

theorem map_eq_error_iff {f : α → β} {step : Except ε α} {fault : ε} :
    f <$> step = .error fault ↔ step = .error fault := by
  cases step with
  | error fault => simp [Functor.map, Except.map]
  | ok a => simp [Functor.map, Except.map]

end Fault

/-- A fault that reaches the library from outside. -/
structure OutsideFault where
  fault : Fault
  outside : fault.isOwn = false
deriving DecidableEq, Repr

end PayloadCheck
