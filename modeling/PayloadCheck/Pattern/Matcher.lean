import PayloadCheck.Pattern.Syntax
import PayloadCheck.Text.Blank
import PayloadCheck.Text.Caseless
import PayloadCheck.Text.Property

/-!
# Matching

A pattern is tried at a place of a text; what follows the pattern is given as a continuation, so
that every choice can be taken back when what follows does not match. The first way that leads to
the end counts.
-/

namespace PayloadCheck.Pattern

open PayloadCheck.Text

/-! ## Single characters -/

/-- The small form of a code point among the first 128. -/
def asciiLower (n : Nat) : Nat := if 65 ≤ n ∧ n ≤ 90 then n + 32 else n

/-- The capital form of a code point among the first 128. -/
def asciiUpper (n : Nat) : Nat := if 97 ≤ n ∧ n ≤ 122 then n - 32 else n

/-- Whether a character is in a class. -/
def CharClass.holds (k : CharClass) (ascii : Bool) (c : Char) : Bool :=
  match k, ascii with
  | digit, true => isAsciiDigit c
  | digit, false => isDecimal c
  | blank, true => isAsciiBlank c
  | blank, false => isBlank c
  | word, true => isAsciiLetter c || isAsciiDigit c || c == '_'
  | word, false => isWord c

/-- The small form that the options compare by. -/
def Options.small (o : Options) (n : Nat) : Nat := if o.ascii then asciiLower n else lowerCode n

/-- Whether a small form is that of a code point, or has the same capital. -/
def Options.agrees (o : Options) (code small : Nat) : Bool :=
  if o.ascii then asciiLower code == small
  else (withSameCapital (lowerCode code)).contains small

/-- The code points below which capitals and small letters are compared in both directions. -/
def basicLimit : Nat := 0x10000

/-- Whether a range holds a code point that agrees with a small form. -/
def Options.rangeAgrees (o : Options) (first last small : Nat) : Bool :=
  let within (n : Nat) : Bool := first ≤ n && n ≤ last
  let basic :=
    if o.ascii then [small, asciiUpper small]
    else (withSameCapital small).flatMap withSmallForm
  basic.any (fun n => n < basicLimit && within n) ||
    (basicLimit ≤ last && (within small ||
      (small.isValidChar && within (upperChar (Char.ofNat small)).toNat)))

/-- Whether a character is a member of a set. -/
def Member.holds (o : Options) (c : Char) : Member → Bool
  | one code =>
    if !o.ignoreCase then c.toNat == code
    else if code < basicLimit then o.agrees code (o.small c.toNat)
    else o.small c.toNat == code
  | range first last =>
    if o.ignoreCase then o.rangeAgrees first last (o.small c.toNat)
    else first ≤ c.toNat && c.toNat ≤ last
  | cls k negated => k.holds o.ascii c != negated

/-- Whether a character is the given one, regard to case as the options say. -/
def Options.same (o : Options) (code : Nat) (c : Char) : Bool :=
  if o.ignoreCase then o.agrees code (o.small c.toNat) else c.toNat == code

/-- Whether a character passes a test. -/
def CharTest.holds (o : Options) (c : Char) : CharTest → Bool
  | one code => o.same code c
  | notOne code => !o.same code c
  | any => o.dotAll || c != '\n'
  | among negated members => members.any (Member.holds o c) != negated

/-! ## Places -/

/-- Whether a place has a word character behind it. -/
def wordBehind (o : Options) (text : Array Char) (i : Nat) : Bool :=
  0 < i && (text[i - 1]?).any (CharClass.word.holds o.ascii)

/-- Whether a place has a word character ahead of it. -/
def wordAhead (o : Options) (text : Array Char) (i : Nat) : Bool :=
  (text[i]?).any (CharClass.word.holds o.ascii)

/-- Whether a place passes the test of an anchor. An empty text has no boundaries, and no places
between them either. -/
def Anchor.holds (o : Options) (text : Array Char) (i : Nat) : Anchor → Bool
  | textStart => i == 0
  | lineStart => i == 0 || (o.multiline && text[i - 1]? == some '\n')
  | textEnd => i == text.size
  | lineEnd =>
    i == text.size || (text[i]? == some '\n' && (o.multiline || i + 1 == text.size))
  | boundary => text.size != 0 && wordBehind o text i != wordAhead o text i
  | notBoundary => text.size != 0 && wordBehind o text i == wordAhead o text i

/-! ## What groups matched -/

/-- Where a group began last, and where it ended last. -/
structure Mark where
  start : Nat
  stop : Option Nat
deriving DecidableEq, Repr

/-- The marks of the groups, by their numbers. -/
abbrev Marks := List (Nat × Mark)

/-- Notes the beginning of a group. -/
def Marks.openAt (m : Marks) (number i : Nat) : Marks :=
  (number, ⟨i, (m.lookup number).bind Mark.stop⟩) :: m

/-- Notes the end of a group. -/
def Marks.closeAt (m : Marks) (number i : Nat) : Marks :=
  (number, ⟨((m.lookup number).map Mark.start).getD i, some i⟩) :: m

/-- Where a group has matched: it is not open, or ended where it begins anew. -/
def Marks.span? (m : Marks) (number : Nat) : Option (Nat × Nat) := do
  let mark ← m.lookup number
  let stop ← mark.stop
  if mark.start ≤ stop then return (mark.start, stop) else none

/-- Whether the `n` characters from `i` and from `j` on agree. -/
def agreeFrom (o : Options) (text : Array Char) (i j : Nat) : Nat → Bool
  | 0 => true
  | n + 1 =>
    match text[i]?, text[j]? with
    | some a, some b =>
      (if o.ignoreCase then o.small a.toNat == o.small b.toNat else a == b) &&
        agreeFrom o text (i + 1) (j + 1) n
    | _, _ => false

/-! ## Patterns -/

/-- The end of a match and the marks at it. -/
abbrev End := Nat × Marks

/-- What follows a pattern. -/
abbrev Follow := Nat → Marks → Option End

/-- Tries to match something at a place, and what follows after it. -/
abbrev Matcher := Nat → Marks → Follow → Option End

/-- Whether one more round can be tried after `count` of them: the limit is not reached, and the
last round took something. -/
def mayGoOn (most : Option Nat) (count : Nat) (last : Option Nat) (i : Nat) : Bool :=
  most.all (count < ·) && last != some i

/-- As many rounds as possible; `last` is where the last round beyond the least number began. -/
def greedyRounds (body : Matcher) (least : Nat) (most : Option Nat) :
    (budget count : Nat) → (last : Option Nat) → Matcher
  | 0, _, _, i, m, k => k i m
  | budget + 1, count, last, i, m, k =>
    if count < least then
      body i m fun j m => greedyRounds body least most budget (count + 1) last j m k
    else if mayGoOn most count last i then
      (body i m fun j m => greedyRounds body least most budget (count + 1) (some i) j m k)
        <|> k i m
    else k i m

/-- As few rounds as possible. -/
def lazyRounds (body : Matcher) (least : Nat) (most : Option Nat) :
    (budget count : Nat) → (last : Option Nat) → Matcher
  | 0, _, _, i, m, k => k i m
  | budget + 1, count, last, i, m, k =>
    if count < least then
      body i m fun j m => lazyRounds body least most budget (count + 1) last j m k
    else
      k i m <|>
        if mayGoOn most count last i then
          body i m fun j m => lazyRounds body least most budget (count + 1) (some i) j m k
        else none

/-- As many rounds as possible, none of which is ever taken back. -/
def settledRounds (body : Matcher) (least : Nat) (most : Option Nat) :
    (budget count : Nat) → (last : Option Nat) → Nat → Marks → Option End
  | 0, _, _, i, m => some (i, m)
  | budget + 1, count, last, i, m =>
    if count < least then do
      let (j, m) ← body i m fun j m => some (j, m)
      settledRounds body least most budget (count + 1) last j m
    else if mayGoOn most count last i then
      match body i m fun j m => some (j, m) with
      | some (j, m) => settledRounds body least most budget (count + 1) (some i) j m
      | none => some (i, m)
    else some (i, m)

/-- Rounds of a matcher. Beyond the least number every round but the first takes something, so that
the budget is enough. -/
def rounds (manner : Manner) (body : Matcher) (least : Nat) (most : Option Nat) (budget : Nat) :
    Matcher := fun i m k =>
  match manner with
  | .greedy => greedyRounds body least most budget 0 none i m k
  | .lazy => lazyRounds body least most budget 0 none i m k
  | .possessive => do
    let (j, m) ← settledRounds body least most budget 0 none i m
    k j m

/-- Tries a pattern at a place of a text. -/
def run (text : Array Char) : Pattern → Options → Matcher
  | .empty, _, i, m, k => k i m
  | .char t, o, i, m, k =>
    match text[i]? with
    | some c => if t.holds o c then k (i + 1) m else none
    | none => none
  | .anchor a, o, i, m, k => if a.holds o text i then k i m else none
  | .seq p q, o, i, m, k => run text p o i m fun j m => run text q o j m k
  | .either p q, o, i, m, k => run text p o i m k <|> run text q o i m k
  | .group none change p, o, i, m, k => run text p (o.within change) i m k
  | .group (some n) change p, o, i, m, k =>
    run text p (o.within change) i (m.openAt n i) fun j m => k j (m.closeAt n j)
  | .repeated manner least most p, o, i, m, k =>
    rounds manner (run text p o) least most (least + (text.size - i) + 2) i m k
  | .look behind negated p, o, i, m, k =>
    let back := if behind then (Width.ofPattern p).least else 0
    let seen := if back ≤ i then run text p o (i - back) m fun j m => some (j, m) else none
    if negated then if seen.isSome then none else k i m
    else match seen with
      | some (_, m) => k i m
      | none => none
  | .again n _, o, i, m, k =>
    match m.span? n with
    | some (start, stop) =>
      if agreeFrom o text start i (stop - start) then k (i + (stop - start)) m else none
    | none => none
  | .conditional n p q, o, i, m, k =>
    if (m.span? n).isSome then run text p o i m k else run text q o i m k
  | .atomic p, o, i, m, k => do
    let (j, m) ← run text p o i m fun j m => some (j, m)
    k j m

/-- The first place from `i` on at which a pattern matches, and the end of that match. -/
def searchFrom (text : Array Char) (o : Options) (p : Pattern) (i : Nat) : Option (Nat × Nat) :=
  match run text p o i [] fun j m => some (j, m) with
  | some (j, _) => some (i, j)
  | none => if i < text.size then searchFrom text o p (i + 1) else none
termination_by text.size - i

/-- The first match of a pattern in a text: its start and its end. -/
def search (o : Options) (p : Pattern) (text : String) : Option (Nat × Nat) :=
  searchFrom text.toList.toArray o p 0

end PayloadCheck.Pattern
