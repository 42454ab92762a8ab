import PayloadCheck.Pattern.Matcher
import PayloadCheck.Pattern.Parser
import PayloadCheck.Value.Path

/-!
# Expressions

A pattern as a rule writes it: alone, or between two delimiters with modifiers after the second
one (`/^[a-z]+$/i`). A pattern that is not well formed is a fault of the rule.
-/

namespace PayloadCheck.Pattern

open PayloadCheck.Text PayloadCheck.Number

/-- A pattern that is ready to be searched for. -/
structure Expression where
  body : String
  options : Options
  pattern : Pattern
deriving DecidableEq, Repr, Inhabited

/-- The characters that may delimit a pattern. -/
def delimiters : List Char := ['/', '#', '~', '%', '@', '!', ';', '\x60']

/-- The modifiers; two of them mean nothing. -/
def modifiers : List Char := ['i', 'm', 's', 'x', 'u', 'D']

/-- Body and modifiers of a delimited pattern. The last delimiter counts, and only letters that are
modifiers may stand after it, with a line end perhaps. -/
def delimited? (cs : List Char) : Option (List Char × List Char) :=
  match cs with
  | [] => none
  | d :: rest =>
    if delimiters.contains d then
      match cut? d rest.reverse with
      | none => none
      | some (after, before) =>
        let letters := dropLineEnd after.reverse
        if letters.all modifiers.contains then some (before.reverse, letters) else none
    else none

/-- The pattern that a parameter comes to, and the options that its modifiers switch on. A parameter
that is not delimited is a pattern as it stands. -/
def handedOver (cs : List Char) : List Char × Options :=
  match delimited? cs with
  | some (body, letters) => (body, ({} : Options).switchOn letters)
  | none => (cs, {})

/-- Reads a pattern under options. -/
def Expression.read (body : List Char) (options : Options) : Except Problem Expression := do
  let source ← Source.ofChars body
  let (pattern, reading) ← (readPattern options.verbose body.length).run { source }
  check (reading.switched.contains 't') pattern
  return { body := String.ofList body, options := options.switchOn reading.switched, pattern }

/-- The fault of a pattern that goes too far. -/
def Excess.fault : Excess → Fault
  | digits count => Value.tooLongInteger count
  | rounds => .outOfRange "the repetition number is too large"
  | alphabets => .badValue "ASCII and UNICODE flags are incompatible"

/-- Reads the pattern that a parameter comes to, and names the parameter where it is malformed. -/
def Expression.compile (parameter : String) (body : List Char) (options : Options) :
    Except Fault Expression :=
  match Expression.read body options with
  | .ok e => .ok e
  | .error (.beyond excess) => .error excess.fault
  | .error (.malformed detail place) =>
    let why := placed body detail place
    .error (.malformedRule "regex" s!"Invalid regex pattern {quoted parameter}: {why}")

/-- The expression of a rule's parameter. -/
def Expression.ofParameter (parameter : String) : Except Fault Expression :=
  let (body, options) := handedOver parameter.toList
  Expression.compile parameter body options

/-- The first match of an expression in a text: its start and its end. -/
def Expression.search (e : Expression) (text : String) : Option (Nat × Nat) :=
  Pattern.search e.options e.pattern text

end PayloadCheck.Pattern
