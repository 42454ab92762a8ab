import PayloadCheck.Number.Digits

/-!
# The text of a pattern, token by token

A token is one character, or a backslash with the character after it. The source always holds the
next token, so that a backslash at the very end is noticed as soon as the token before it is
taken.
-/

namespace PayloadCheck.Pattern

open PayloadCheck.Number

/-- Why a pattern that is well formed cannot be used all the same. -/
inductive Excess where
  /-- A number of rounds has too many digits. -/
  | digits (count : Nat)
  /-- A number of rounds is too large. -/
  | rounds
  /-- Letters are to be told by two alphabets. -/
  | alphabets
deriving DecidableEq, Repr, Inhabited

/-- Why a pattern is refused: it is not well formed, at some place or as a whole, or it goes too
far. -/
inductive Problem where
  | malformed (detail : String) (place : Option Nat)
  | beyond (excess : Excess)
deriving DecidableEq, Repr, Inhabited

/-- The text of a problem, with the place at which it lies. In a pattern of several lines the line
and the column are given as well. -/
def placed (body : List Char) (detail : String) : Option Nat → String
  | none => detail
  | some place =>
    let at_ := s!"{detail} at position {natText place}"
    if body.contains '\n' then
      let before := body.take place
      let line := before.count '\n' + 1
      let column := (before.reverse.takeWhile (· != '\n')).length + 1
      s!"{at_} (line {natText line}, column {natText column})"
    else at_

/-- A token of a pattern. -/
inductive Token where
  | plain (c : Char)
  | escaped (c : Char)
deriving DecidableEq, Repr

/-- A token as it is written. -/
def Token.chars : Token → List Char
  | plain c => [c]
  | escaped c => ['\\', c]

/-- The number of characters of a token. -/
def Token.length (t : Token) : Nat := t.chars.length

/-- The text of a token. -/
def Token.text (t : Token) : String := String.ofList t.chars

/-- The next token, and what follows it: the place where that begins and its characters. -/
structure Source where
  next : Option Token
  after : Nat
  rest : List Char
deriving DecidableEq, Repr, Inhabited

namespace Source

/-- Takes the next token away. -/
def advance (s : Source) : Except Problem Source :=
  match s.rest with
  | [] => .ok { s with next := none }
  | ['\\'] => .error (.malformed "bad escape (end of pattern)" (some s.after))
  | '\\' :: c :: rest => .ok ⟨some (.escaped c), s.after + 2, rest⟩
  | c :: rest => .ok ⟨some (.plain c), s.after + 1, rest⟩

/-- The source of a text. -/
def ofChars (cs : List Char) : Except Problem Source := advance ⟨none, 0, cs⟩

/-- The place of the next token. -/
def place (s : Source) : Nat :=
  s.after - match s.next with
    | some t => t.length
    | none => 0

/-- The number of characters from the next token on. -/
def remaining (s : Source) : Nat := s.rest.length + (s.after - s.place)

/-- Taking a token leaves fewer characters. -/
theorem remaining_advance {s t : Source} (h : s.advance = .ok t)
    (hn : ∀ u, s.next = some u → u.length ≤ s.after) (hs : s.next.isSome) :
    t.remaining < s.remaining := by
  obtain ⟨next, after, rest⟩ := s
  cases next with
  | none => simp at hs
  | some u =>
    have hu : 1 ≤ u.length := by cases u <;> simp [Token.length, Token.chars]
    have hle := hn u rfl
    simp only at hle
    simp only [advance] at h
    split at h
    · cases h
      simp_all [remaining, place]
      omega
    · cases h
    · rename_i c r
      cases h
      simp [remaining, place, Token.length, Token.chars] at *
      omega
    · rename_i c r _ _
      cases h
      simp [remaining, place, Token.length, Token.chars] at *
      omega

end Source

end PayloadCheck.Pattern
