import PayloadCheck.Fault
import PayloadCheck.Pattern.Parser

/-!
# Repetition counts that cannot be used

A count is read behind an opening brace, wherever the reading of a pattern has come to a repetition
sign. So a count that fails lets the whole reading fail, and any other count that fails may stand in
its place. This is said of one step of the reading at a time: its effect depends on no more of the
text than it has looked at, and it fails for a count at the brace of that count (`Steady`). Steps
that are put together from steady ones are steady.
-/

namespace PayloadCheck.Pattern

open PayloadCheck.Number PayloadCheck.Text

/-! ### Counts -/

/-- Why a number of rounds cannot be used, if it cannot. -/
def excess? (digits : List Char) : Option Excess :=
  if maxDigits < digits.length then some (.digits digits.length)
  else if roundLimit ≤ readDecimal digits then some .rounds
  else none

/-- The detail of a count whose least number is the greater one. -/
def upsideDown : String := "min repeat greater than max repeat"

/-- What a text begins with behind the brace in front of the place `k`: a count that is refused, up
to its closing brace. Its least number is looked at first; a lone backslash behind it would be
noticed before the count is. -/
inductive CountFails (k : Nat) : List Char → Problem → Prop
  | one {lo rest : List Char} {excess : Excess} (hlo : lo.all isAsciiDigit = true)
      (hrest : rest ≠ ['\\']) (hlarge : excess? lo = some excess) :
      CountFails k (lo ++ '\x7d' :: rest) (.beyond excess)
  | two {lo hi rest : List Char} {excess : Excess} (hlo : lo.all isAsciiDigit = true)
      (hhi : hi.all isAsciiDigit = true) (hrest : rest ≠ ['\\'])
      (hlarge : (excess? lo).or (excess? hi) = some excess) :
      CountFails k (lo ++ ',' :: (hi ++ '\x7d' :: rest)) (.beyond excess)
  | upsideDown {lo hi rest : List Char} (hlo : lo.all isAsciiDigit = true)
      (hhi : hi.all isAsciiDigit = true) (hrest : rest ≠ ['\\']) (hsome : hi ≠ [])
      (hsmall : (excess? lo).or (excess? hi) = none) (hlt : readDecimal hi < readDecimal lo) :
      CountFails k (lo ++ ',' :: (hi ++ '\x7d' :: rest)) (.malformed upsideDown (some k))

/-- A problem that only a count can have. -/
def Problem.OfCount : Problem → Prop
  | .malformed detail _ => detail = Pattern.upsideDown
  | .beyond excess => excess ≠ .alphabets

/-- The details of all other refusals begin with other letters. -/
theorem not_ofCount_malformed {detail : String} (h : detail.toList.take 3 ≠ ['m', 'i', 'n'])
    (place : Option Nat) : ¬ (Problem.malformed detail place).OfCount := by
  rintro (rfl : detail = Pattern.upsideDown)
  exact h (by decide)

/-! ### Two readings that go on differently -/

/-- A reading with another text behind its next token. -/
def Reading.withRest (r : Reading) (rest : List Char) : Reading :=
  { r with source := { r.source with rest } }

/-- Two readings of the same text up to an opening brace, which is the next token or stands behind
it. From the place `k` behind the brace on one goes on with `x`, and the other with `y`. -/
def Forks (k : Nat) (x y : List Char) (r r' : Reading) : Prop :=
  ∃ w, r.source.rest = w ++ x ∧ r' = r.withRest (w ++ y) ∧ k = r.source.after + w.length ∧
    (w.getLast? = some '\x7b' ∨ (w = [] ∧ r.source.next = some (.plain '\x7b')))

variable {α β : Type}

/-- What a step does to a reading depends on no more of the text than stands before the end of the
token that it leaves as the next one. -/
def KeptAt (f : Step α) (r : Reading) : Prop :=
  ∀ ⦃a r₁ r₁' k x y⦄, f.run r = .ok (a, r₁) → x.length = y.length → Forks k x y r₁ r₁' →
    ∃ r', Forks k x y r r' ∧ f.run r' = .ok (a, r₁')

/-- A step that is kept, and that fails for a count only at the brace of that count: any other count
that fails in its place lets the step fail as well. -/
structure SteadyAt (f : Step α) (r : Reading) : Prop where
  kept : KeptAt f r
  failed {p : Problem} (h : f.run r = .error p) (hp : p.OfCount) :
    ∃ k x, CountFails k x p ∧ ∀ y p', x.length = y.length → CountFails k y p' →
      ∃ r', Forks k x y r r' ∧ f.run r' = .error p'
  apart : f.run r ≠ .error (.beyond .alphabets)

/-- A step that is steady at every reading. -/
def Steady (f : Step α) : Prop := ∀ r, SteadyAt f r

section

variable {f : Step α} {g : α → Step β} {r : Reading}

theorem KeptAt.bind (hf : KeptAt f r) (hg : ∀ a r₁, f.run r = .ok (a, r₁) → KeptAt (g a) r₁) :
    KeptAt (f >>= g) r := by
  intro b r₂ r₂' k x y h hlength hforks
  rw [StateT.run_bind] at h
  obtain ⟨⟨a, r₁⟩, hfirst, hsecond⟩ := Fault.bind_eq_ok_iff.mp h
  obtain ⟨r₁', hforks₁, hsecond'⟩ := hg a r₁ hfirst hsecond hlength hforks
  obtain ⟨r', hforks', hfirst'⟩ := hf hfirst hlength hforks₁
  refine ⟨r', hforks', ?_⟩
  rw [StateT.run_bind, hfirst']
  exact hsecond'

theorem SteadyAt.bind (hf : SteadyAt f r) (hg : ∀ a, Steady (g a)) : SteadyAt (f >>= g) r := by
  refine ⟨hf.kept.bind fun a r₁ _ => (hg a r₁).kept, ?failed, ?apart⟩
  case failed =>
    intro p h hp
    rw [StateT.run_bind] at h
    rcases Fault.bind_eq_error_iff.mp h with hfirst | ⟨⟨a, r₁⟩, hfirst, hsecond⟩
    · obtain ⟨k, x, hcount, hothers⟩ := hf.failed hfirst hp
      refine ⟨k, x, hcount, fun y p' hlength hcount' => ?_⟩
      obtain ⟨r', hforks, hfirst'⟩ := hothers y p' hlength hcount'
      exact ⟨r', hforks, by rw [StateT.run_bind, hfirst']; rfl⟩
    · obtain ⟨k, x, hcount, hothers⟩ := (hg a r₁).failed hsecond hp
      refine ⟨k, x, hcount, fun y p' hlength hcount' => ?_⟩
      obtain ⟨r₁', hforks₁, hsecond'⟩ := hothers y p' hlength hcount'
      obtain ⟨r', hforks, hfirst'⟩ := hf.kept hfirst hlength hforks₁
      refine ⟨r', hforks, ?_⟩
      rw [StateT.run_bind, hfirst']
      exact hsecond'
  case apart =>
    intro h
    rw [StateT.run_bind] at h
    rcases Fault.bind_eq_error_iff.mp h with hfirst | ⟨⟨a, r₁⟩, -, hsecond⟩
    · exact hf.apart hfirst
    · exact (hg a r₁).apart hsecond

theorem Steady.bind (hf : Steady f) (hg : ∀ a, Steady (g a)) : Steady (f >>= g) :=
  fun r => (hf r).bind hg

theorem Steady.pure (a : α) : Steady (Pure.pure a : Step α) := by
  intro r
  refine ⟨?_, ?_, ?_⟩
  · intro b r₁ r₁' k x y h _ hforks
    cases h
    exact ⟨r₁', hforks, rfl⟩
  · intro p h
    cases h
  · intro h
    cases h

theorem Steady.ite {c : Prop} [Decidable c] {other : Step α} (hf : Steady f)
    (hother : Steady other) : Steady (if c then f else other) := by
  split
  · exact hf
  · exact hother

/-- A step that looks at the reading, and at no more of the text behind the next token than its
length. -/
theorem SteadyAt.get_bind {k : Reading → Step α} (h : SteadyAt (k r) r)
    (hsame : ∀ rest, rest.length = r.source.rest.length → k (r.withRest rest) = k r) :
    SteadyAt (get >>= k) r := by
  have hrun : ∀ r, ((get : Step Reading) >>= k).run r = (k r).run r := fun _ => rfl
  -- both readings of a fork have texts of one length, so the same step goes on
  have hfork : ∀ {n x y r'}, x.length = y.length → Forks n x y r r' → k r' = k r := by
    rintro n x y r' hlength ⟨w, hrest, rfl, -⟩
    exact hsame _ (by simp [hrest, hlength])
  refine ⟨?kept, ?failed, ?apart⟩
  case kept =>
    intro a r₁ r₁' n x y hok hlength hforks
    obtain ⟨r', hforks', hok'⟩ := h.kept (by rwa [hrun] at hok) hlength hforks
    exact ⟨r', hforks', by rw [hrun, hfork hlength hforks', hok']⟩
  case failed =>
    intro p hfails hp
    obtain ⟨n, x, hcount, hothers⟩ := h.failed (by rwa [hrun] at hfails) hp
    refine ⟨n, x, hcount, fun y p' hlength hcount' => ?_⟩
    obtain ⟨r', hforks, hfails'⟩ := hothers y p' hlength hcount'
    exact ⟨r', hforks, by rw [hrun, hfork hlength hforks, hfails']⟩
  case apart =>
    rw [hrun]
    exact h.apart

theorem Steady.get_bind {k : Reading → Step α} (h : ∀ r, Steady (k r))
    (hsame : ∀ r rest, rest.length = r.source.rest.length → k (r.withRest rest) = k r) :
    Steady (get >>= k) :=
  fun r => .get_bind (h r r) (hsame r)

theorem SteadyAt.peek_bind {k : Option Token → Step α} (h : SteadyAt (k r.source.next) r) :
    SteadyAt (Step.peek >>= k) r :=
  .get_bind h fun _ _ => rfl

theorem SteadyAt.place_bind {k : Nat → Step α} (h : SteadyAt (k r.source.place) r) :
    SteadyAt (Step.place >>= k) r :=
  .get_bind h fun _ _ => rfl

theorem Steady.peek : Steady Step.peek := .get_bind (fun _ => .pure _) fun _ _ _ => rfl

theorem Steady.place : Steady Step.place := .get_bind (fun _ => .pure _) fun _ _ _ => rfl

theorem Steady.remaining : Steady Step.remaining := by
  refine .get_bind (fun _ => .pure _) fun r rest hlength => ?_
  simp [Source.remaining, Reading.withRest, Source.place, hlength]

theorem Steady.groupCount : Steady groupCount := .get_bind (fun _ => .pure _) fun _ _ _ => rfl

theorem Steady.closedWidth (number : Nat) : Steady (closedWidth? number) :=
  .get_bind (fun _ => .pure _) fun _ _ _ => rfl

theorem Steady.modifies {change : Reading → Reading} (hsource : ∀ r, (change r).source = r.source)
    (hrest : ∀ r rest, change (r.withRest rest) = (change r).withRest rest) :
    Steady (modify change) := by
  intro r
  refine ⟨?_, ?_, ?_⟩
  · intro a r₁ r₁' k x y h _ hforks
    cases h
    obtain ⟨w, hsplit, rfl, hk, hbrace⟩ := hforks
    rw [hsource] at hsplit hk hbrace
    exact ⟨_, ⟨w, hsplit, rfl, hk, hbrace⟩, by rw [← hrest]; rfl⟩
  · intro p h
    cases h
  · intro h
    cases h

theorem Steady.refuse {detail : String} (h : detail.toList.take 3 ≠ ['m', 'i', 'n'])
    (back : Nat) : Steady (Step.refuse detail back : Step α) := by
  intro r
  refine ⟨?_, ?_, ?_⟩
  · intro a r₁ r₁' k x y hok
    cases hok
  · intro p hfails hp
    cases hfails
    exact absurd hp (not_ofCount_malformed h _)
  · intro hfails
    cases hfails

/-- The token that is taken next, and the text behind it. -/
theorem advance_cases {s t : Source} (h : s.advance = .ok t) :
    s.rest = [] ∧ t = { s with next := none } ∨
      ∃ token, s.rest = token.chars ++ t.rest ∧ t.next = some token ∧
        t.after = s.after + token.length ∧
        ∀ rest, ({ s with rest := token.chars ++ rest } : Source).advance = .ok { t with rest } := by
  obtain ⟨next, after, rest⟩ := s
  unfold Source.advance at h
  split at h
  · next hnil =>
    cases h
    exact Or.inl ⟨hnil, rfl⟩
  · cases h
  · next c more hrest =>
    cases h
    refine Or.inr ⟨.escaped c, hrest, rfl, rfl, fun _ => rfl⟩
  · next c more hlone hescape hrest =>
    cases h
    have hplain : c ≠ '\\' := by
      rintro rfl
      cases more with
      | nil => exact hlone rfl rfl
      | cons d more => exact hescape d more rfl rfl
    refine Or.inr ⟨.plain c, hrest, rfl, rfl, fun rest => ?_⟩
    unfold Source.advance
    simp [Token.chars, hplain]

theorem run_take (r : Reading) : Step.take.run r =
    r.source.advance.map fun source => (r.source.next, { r with source }) := by
  unfold Step.take
  cases h : r.source.advance <;> simp [h, StateT.run_bind] <;> rfl

/-- A token that is taken leaves the next one, which is found again whatever text stands behind. -/
theorem take_cases {t : Option Token} {r₁ : Reading} (h : Step.take.run r = .ok (t, r₁)) :
    t = r.source.next ∧
      (r.source.rest = [] ∧ r₁ = { r with source := { r.source with next := none } } ∨
        ∃ token, r.source.rest = token.chars ++ r₁.source.rest ∧ r₁.source.next = some token ∧
          r₁.source.after = r.source.after + token.length ∧
          ∀ rest, Step.take.run (r.withRest (token.chars ++ rest)) =
            .ok (r.source.next, r₁.withRest rest)) := by
  rw [run_take] at h
  cases hadvance : r.source.advance with
  | error p =>
    rw [hadvance] at h
    cases h
  | ok source =>
    rw [hadvance] at h
    cases h
    refine ⟨rfl, ?_⟩
    rcases advance_cases hadvance with ⟨hnil, rfl⟩ | ⟨token, hrest, hnext, hafter, hagain⟩
    · exact Or.inl ⟨hnil, rfl⟩
    · refine Or.inr ⟨token, hrest, hnext, hafter, fun rest => ?_⟩
      rw [run_take, Reading.withRest, hagain]
      rfl

theorem problem_of_take {p : Problem} (h : Step.take.run r = .error p) :
    p = .malformed "bad escape (end of pattern)" (some r.source.after) := by
  rw [run_take, Source.advance] at h
  split at h <;> cases h
  rfl

theorem Steady.take : Steady Step.take := by
  intro r
  refine ⟨?kept, ?failed, ?apart⟩
  case kept =>
    intro a r₁ r₁' k x y h _ hforks
    obtain ⟨w, hsplit, rfl, rfl, hbrace⟩ := hforks
    obtain ⟨rfl, ⟨hnil, rfl⟩ | ⟨token, hrest, hnext, hafter, hagain⟩⟩ := take_cases h
    · dsimp only at hsplit hbrace
      rw [hnil, List.nil_eq_append_iff] at hsplit
      simp [hsplit.1] at hbrace
    · -- the token that was taken up joins the text in front of the fork
      refine ⟨r.withRest (token.chars ++ (w ++ y)), ⟨token.chars ++ w, ?_, ?_, ?_, ?_⟩, hagain _⟩
      · rw [hrest, hsplit, List.append_assoc]
      · rw [List.append_assoc]
      · simp [hafter, Token.length, Nat.add_assoc]
      · left
        rw [List.getLast?_append]
        rcases hbrace with hlast | ⟨rfl, hbrace⟩
        · rw [hlast, Option.some_or]
        · rw [hnext, Option.some.injEq] at hbrace
          rw [hbrace]
          rfl
  case failed =>
    intro p h hp
    rw [problem_of_take h] at hp
    exact absurd hp (not_ofCount_malformed (by decide) _)
  case apart =>
    intro h
    cases problem_of_take h

theorem Steady.takeIf (c : Char) : Steady (Step.takeIf c) := by
  unfold Step.takeIf
  refine Steady.peek.bind fun t => ?_
  split
  · exact Steady.take.bind fun _ => .pure _
  · exact .pure _

theorem Steady.takeWhile (p : Char → Bool) (n : Nat) : Steady (Step.takeWhile p n) := by
  induction n with
  | zero => exact .pure _
  | succ n ih =>
    unfold Step.takeWhile
    refine Steady.peek.bind fun t => ?_
    split
    · split
      · exact Steady.take.bind fun _ => ih.bind fun _ => .pure _
      · exact .pure _
    · exact .pure _

theorem Steady.takeUntil (closing : Char) (what : String) (n : Nat) (taken : List Char) :
    Steady (Step.takeUntil closing what n taken) := by
  induction n generalizing taken with
  | zero => exact .pure _
  | succ n ih =>
    unfold Step.takeUntil
    refine Steady.take.bind fun t => ?_
    dsimp only
    split
    · exact .ite ((Steady.refuse (by simp [toString]) _).bind fun _ =>
        .refuse (by simp [toString]) _) (.refuse (by simp [toString]) _)
    · exact .ite (.ite ((Steady.refuse (by simp [toString]) _).bind fun _ => .pure _) (.pure _))
        (ih _)

theorem Steady.takeName (closing : Char) (what : String) : Steady (Step.takeName closing what) :=
  Steady.remaining.bind fun _ => .takeUntil closing what _ _

theorem Steady.skipPast (c : Char) (n : Nat) : Steady (Step.skipPast c n) := by
  induction n with
  | zero => exact .pure _
  | succ n ih =>
    unfold Step.skipPast
    refine Steady.take.bind fun t => ?_
    split
    · exact .pure _
    · exact .ite (.pure _) ih

end

end PayloadCheck.Pattern
