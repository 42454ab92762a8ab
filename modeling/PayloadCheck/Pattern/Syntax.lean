import PayloadCheck.Text.CodeSet

/-!
# Patterns

The regular expressions of the rule `regex`. A pattern is built from tests of single characters,
anchors, sequences, alternatives, repetitions, groups and conditions. Characters are code points,
so that a pattern may also name one that no text can hold.
-/

namespace PayloadCheck.Pattern

/-- How a pattern is read and matched. -/
structure Options where
  ignoreCase : Bool := false
  multiline : Bool := false
  dotAll : Bool := false
  verbose : Bool := false
  ascii : Bool := false
deriving DecidableEq, Repr, Inhabited

/-- A class of characters. -/
inductive CharClass where
  | digit
  | blank
  | word
deriving DecidableEq, Repr

/-- A member of a set of characters. -/
inductive Member where
  | one (code : Nat)
  | range (first last : Nat)
  | cls (c : CharClass) (negated : Bool)
deriving DecidableEq, Repr

/-- A test of one character. -/
inductive CharTest where
  | one (code : Nat)
  | notOne (code : Nat)
  /-- Every character, line ends perhaps excepted. -/
  | any
  | among (negated : Bool) (members : List Member)
deriving DecidableEq, Repr

/-- A test of a place in the text. -/
inductive Anchor where
  | textStart
  | lineStart
  | textEnd
  | lineEnd
  | boundary
  | notBoundary
deriving DecidableEq, Repr

/-- How a repetition chooses the number of rounds: as many as possible, as few as possible, or as
many as possible without ever giving one back. -/
inductive Manner where
  | greedy
  | lazy
  | possessive
deriving DecidableEq, Repr

/-- The least and the greatest number of characters that a pattern can take; without the latter
there is no limit. -/
structure Width where
  least : Nat
  most : Option Nat
deriving DecidableEq, Repr, Inhabited

/-- What a group switches on and off. -/
structure Change where
  on : List Char := []
  off : List Char := []
deriving DecidableEq, Repr, Inhabited

/-- A pattern. -/
inductive Pattern where
  | empty
  | char (test : CharTest)
  | anchor (a : Anchor)
  | seq (first second : Pattern)
  | either (first second : Pattern)
  /-- A group; if it has a number, what it matches can be referred to. -/
  | group (number : Option Nat) (change : Change) (body : Pattern)
  | repeated (manner : Manner) (least : Nat) (most : Option Nat) (body : Pattern)
  /-- Looks ahead or behind without taking anything. -/
  | look (behind negated : Bool) (body : Pattern)
  /-- What a group of the given width matched, once more. -/
  | again (number : Nat) (width : Width)
  /-- One of two patterns, as a group has matched or not. -/
  | conditional (number : Nat) (yes no : Pattern)
  /-- A pattern whose first way of matching is the only one. -/
  | atomic (body : Pattern)
deriving DecidableEq, Repr, Inhabited

namespace Pattern

/-- Patterns one after the other. -/
def sequence : List Pattern → Pattern
  | [] => empty
  | [p] => p
  | p :: rest => seq p (sequence rest)

/-- Alternatives, tried in their order. -/
def alternatives : List Pattern → Pattern
  | [] => empty
  | [p] => p
  | p :: rest => either p (alternatives rest)

/-- Whether a pattern is a repetition. -/
def isRepeated : Pattern → Bool
  | repeated .. => true
  | _ => false

/-- Whether a pattern tests a place. -/
def isAnchor : Pattern → Bool
  | anchor _ => true
  | _ => false

end Pattern

namespace Options

/-- Switches options on. A choice of the character repertoire replaces the earlier one. -/
def switchOn (o : Options) (letters : List Char) : Options :=
  { ignoreCase := o.ignoreCase || letters.contains 'i'
    multiline := o.multiline || letters.contains 'm'
    dotAll := o.dotAll || letters.contains 's'
    verbose := o.verbose || letters.contains 'x'
    ascii := letters.contains 'a' || (o.ascii && !letters.contains 'u') }

/-- Switches options off. -/
def switchOff (o : Options) (letters : List Char) : Options :=
  { o with
    ignoreCase := o.ignoreCase && !letters.contains 'i'
    multiline := o.multiline && !letters.contains 'm'
    dotAll := o.dotAll && !letters.contains 's'
    verbose := o.verbose && !letters.contains 'x' }

/-- The options inside a group. -/
def within (o : Options) (c : Change) : Options := (o.switchOn c.on).switchOff c.off

end Options

namespace Width

/-- The width of two patterns one after the other. -/
def plus (a b : Width) : Width := ⟨a.least + b.least, do return (← a.most) + (← b.most)⟩

/-- The width of one of two patterns. -/
def or (a b : Width) : Width :=
  ⟨min a.least b.least, do return max (← a.most) (← b.most)⟩

/-- The width of several rounds. -/
def times (a : Width) (least : Nat) (most : Option Nat) : Width :=
  ⟨a.least * least,
   if a.most = some 0 || most = some 0 then some 0 else do return (← a.most) * (← most)⟩

/-- The width of a pattern. -/
def ofPattern : Pattern → Width
  | .empty | .anchor _ | .look .. => ⟨0, some 0⟩
  | .char _ => ⟨1, some 1⟩
  | .seq p q => (ofPattern p).plus (ofPattern q)
  | .either p q | .conditional _ p q => (ofPattern p).or (ofPattern q)
  | .group _ _ p | .atomic p => ofPattern p
  | .repeated _ least most p => (ofPattern p).times least most
  | .again _ width => width

end Width

end PayloadCheck.Pattern
