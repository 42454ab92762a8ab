import PayloadCheck.Proofs.Pattern.Braces
import PayloadCheck.Proofs.Pattern.SteadySteps

/-!
# Steady readers

A brace that opens no closed count is a character like any other, so what stands behind it has been
looked at and is read again. With this the readers of alternatives, sequences and groups are steady,
by induction on their fuel, one case for each of them.
-/

namespace PayloadCheck.Pattern

open PayloadCheck.Number PayloadCheck.Text

/-! ### Looking ahead -/

/-- Two readings of the same text up to an opening brace, which may belong to an escape that is the
next token. -/
def Beside (x y : List Char) (r r' : Reading) : Prop :=
  ∃ w, r.source.rest = w ++ x ∧ r' = r.withRest (w ++ y) ∧
    (w.getLast? = some '\x7b' ∨
      w = [] ∧ (r.source.next = some (.plain '\x7b') ∨ r.source.next = some (.escaped '\x7b')))

theorem Forks.beside {k : Nat} {x y : List Char} {r r' : Reading} (h : Forks k x y r r') :
    Beside x y r r' := by
  obtain ⟨w, hrest, hr', -, hbrace⟩ := h
  exact ⟨w, hrest, hr', hbrace.imp_right fun h => ⟨h.1, Or.inl h.2⟩⟩

/-- A step that does not get past an opening brace. -/
def Looks {α : Type} (f : Step α) : Prop :=
  ∀ ⦃x y r r' a r₁⦄, x.length = y.length → Beside x y r r' → f.run r = .ok (a, r₁) →
    ∃ r₁', f.run r' = .ok (a, r₁') ∧ Beside x y r₁ r₁'

section

variable {α β : Type} {f : Step α} {x y : List Char} {r r' r₁ : Reading}

theorem Looks.pure (a : α) : Looks (Pure.pure a : Step α) := by
  intro x y r r' b r₁ _ hbeside h
  cases h
  exact ⟨r', rfl, hbeside⟩

theorem Looks.bind {next : α → Step β} (h : Looks f) (hnext : ∀ a, Looks (next a)) :
    Looks (f >>= next) := by
  intro x y r r' b r₂ hlength hbeside hok
  rw [StateT.run_bind] at hok
  obtain ⟨⟨a, r₁⟩, hfirst, hsecond⟩ := Fault.bind_eq_ok_iff.mp hok
  obtain ⟨r₁', hfirst', hbeside₁⟩ := h hlength hbeside hfirst
  obtain ⟨r₂', hsecond', hbeside₂⟩ := hnext a hlength hbeside₁ hsecond
  exact ⟨r₂', by rw [run_bind_of_ok hfirst', hsecond'], hbeside₂⟩

theorem Looks.remaining : Looks Step.remaining := by
  intro x y r r' n r₁ hlength hbeside h
  obtain ⟨w, hrest, rfl, hbrace⟩ := hbeside
  cases h
  have hsame : (r.withRest (w ++ y)).source.remaining = r.source.remaining := by
    simp [Source.remaining, Reading.withRest, Source.place, hrest, hlength]
  exact ⟨_, by rw [← hsame]; rfl, w, hrest, rfl, hbrace⟩

/-- The token that is taken next does not end behind the brace, unless the brace was taken. -/
theorem exists_append_of_brace {w rest : List Char} {token : Token}
    (hlast : w.getLast? = some '\x7b') (h : w ++ x = token.chars ++ rest) :
    ∃ w', w = token.chars ++ w' ∧ rest = w' ++ x ∧ (w'.getLast? = some '\x7b' ∨
      w' = [] ∧ (some token = some (.plain '\x7b') ∨ some token = some (.escaped '\x7b'))) := by
  have hsplit : ∃ w', w = token.chars ++ w' ∧ rest = w' ++ x := by
    rcases List.append_eq_append_iff.mp h with ⟨more, hchars, hx⟩ | ⟨w', hw, hrest⟩
    · have hmore : more = [] := by
        -- else the brace would be the backslash of an escape
        rcases List.eq_nil_or_concat more with hmore | ⟨more, c, rfl⟩
        · exact hmore
        · cases token <;> rcases w with _ | ⟨d, _ | ⟨e, w⟩⟩ <;> simp_all [Token.chars]
      rw [hmore, List.append_nil] at hchars
      rw [hmore, List.nil_append] at hx
      exact ⟨[], by rw [hchars, List.append_nil], by rw [hx, List.nil_append]⟩
    · exact ⟨w', hw, hrest⟩
  obtain ⟨w', rfl, hrest⟩ := hsplit
  refine ⟨w', rfl, hrest, ?_⟩
  cases w' with
  | nil =>
    right
    rw [List.append_nil] at hlast
    cases token with
    | plain c => simpa [Token.chars] using hlast
    | escaped c => simpa [Token.chars] using hlast
  | cons c more => exact Or.inl (by simpa [List.getLast?_append] using hlast)

theorem Beside.take {t : Option Token} {c : Char} (h : Beside x y r r')
    (hnext : r.source.next = some (.plain c)) (hc : c ≠ '\x7b')
    (htake : Step.take.run r = .ok (t, r₁)) :
    ∃ r₁', Step.take.run r' = .ok (t, r₁') ∧ Beside x y r₁ r₁' := by
  obtain ⟨w, hrest, rfl, hbrace⟩ := h
  have hlast : w.getLast? = some '\x7b' := by
    refine hbrace.resolve_right ?_
    rintro ⟨-, hbrace⟩
    simp [hnext, hc] at hbrace
  obtain ⟨rfl, ⟨hnil, -⟩ | ⟨token, htoken, hnext', -, hagain⟩⟩ := take_cases htake
  · rw [hnil, List.nil_eq_append_iff] at hrest
    simp [hrest.1] at hlast
  · obtain ⟨w', rfl, hrest', hbrace'⟩ := exists_append_of_brace hlast (hrest ▸ htoken)
    refine ⟨r₁.withRest (w' ++ y), ?_, w', hrest', rfl, hnext' ▸ hbrace'⟩
    rw [List.append_assoc]
    exact hagain _

theorem Beside.next_eq (h : Beside x y r r') : r'.source.next = r.source.next := by
  obtain ⟨w, -, rfl, -⟩ := h
  rfl

theorem Looks.takeIf {c : Char} (hc : c ≠ '\x7b') : Looks (Step.takeIf c) := by
  intro x y r r' b r₁ hlength hbeside h
  rw [run_takeIf] at h ⊢
  rw [hbeside.next_eq]
  split at h
  · next hnext =>
    obtain ⟨⟨t, r₂⟩, htake, hok⟩ := Fault.bind_eq_ok_iff.mp h
    cases hok
    obtain ⟨r₁', htake', hbeside'⟩ := hbeside.take hnext hc htake
    exact ⟨r₁', by rw [if_pos hnext, htake']; rfl, hbeside'⟩
  · next hnext =>
    cases h
    exact ⟨r', by rw [if_neg hnext], hbeside⟩

theorem Looks.takeWhile {p : Char → Bool} (hp : p '\x7b' = false) (n : Nat) :
    Looks (Step.takeWhile p n) := by
  induction n with
  | zero => exact .pure _
  | succ n ih =>
    intro x y r r' ds r₁ hlength hbeside h
    by_cases hnext : ∃ c, r.source.next = some (.plain c) ∧ p c = true
    · obtain ⟨c, hnext, hc⟩ := hnext
      have hne : c ≠ '\x7b' := by
        rintro rfl
        rw [hp] at hc
        cases hc
      rw [run_takeWhile_cons hnext hc] at h
      obtain ⟨⟨t, r₂⟩, htake, h⟩ := Fault.bind_eq_ok_iff.mp h
      obtain ⟨⟨more, r₃⟩, hwhile, h⟩ := Fault.bind_eq_ok_iff.mp h
      cases h
      obtain ⟨r₂', htake', hbeside₂⟩ := hbeside.take hnext hne htake
      obtain ⟨r₃', hwhile', hbeside₃⟩ := ih hlength hbeside₂ hwhile
      refine ⟨r₃', ?_, hbeside₃⟩
      rw [run_takeWhile_cons (hbeside.next_eq.trans hnext) hc, htake']
      change ((Step.takeWhile p n).run r₂' >>= _) = _
      rw [hwhile']
      rfl
    · have hstop : ∀ c, r.source.next = some (.plain c) → p c = false := by
        intro c hc
        simpa using fun hpc => hnext ⟨c, hc, hpc⟩
      rw [run_takeWhile_stop hstop] at h
      cases h
      exact ⟨r', run_takeWhile_stop (by rwa [hbeside.next_eq]), hbeside⟩

theorem Looks.countAhead : Looks countAhead := by
  have hdigits : Looks digitsAhead := Looks.remaining.bind fun n => .takeWhile (by decide) n
  refine hdigits.bind fun _ => (Looks.takeIf (by decide)).bind fun comma => ?_
  split
  · exact hdigits.bind fun _ => (Looks.takeIf (by decide)).bind fun _ => .pure _
  · exact (Looks.pure _).bind fun _ => (Looks.takeIf (by decide)).bind fun _ => .pure _

end

/-! ### Repetitions -/

theorem Steady.digitsAhead : Steady digitsAhead :=
  Steady.remaining.bind fun _ => .takeWhile _ _

theorem Steady.countAhead : Steady countAhead := by
  refine Steady.digitsAhead.bind fun _ => (Steady.takeIf _).bind fun comma => ?_
  split
  · exact Steady.digitsAhead.bind fun _ => (Steady.takeIf _).bind fun _ => .pure _
  · exact (Steady.pure _).bind fun _ => (Steady.takeIf _).bind fun _ => .pure _

theorem Forks.next_eq {k : Nat} {x y : List Char} {r r' : Reading} (h : Forks k x y r r') :
    r'.source.next = r.source.next :=
  h.beside.next_eq

theorem Forks.place_eq {k : Nat} {x y : List Char} {r r' : Reading} (h : Forks k x y r r') :
    r'.source.place = r.source.place := by
  obtain ⟨w, -, rfl, -⟩ := h
  rfl

section

variable {r : Reading}

theorem run_roundsBetween_congr {start : Nat} {lo hi : List Char} {r₁ : Reading}
    {rounds : Option (Nat × Option Nat)}
    (h : (roundsBetween start lo hi).run r = .ok (rounds, r₁)) :
    r₁ = r ∧ ∀ r', (roundsBetween start lo hi).run r' = .ok (rounds, r') := by
  simp only [run_roundsBetween] at h ⊢
  split at h
  · cases h
  split at h
  · cases h
    simp_all
  split at h
  · cases h
  · cases h
    simp_all

theorem kept_readRounds_brace (r : Reading) : KeptAt (readRounds '\x7b') r := by
  intro rounds r₁ r₁' k x y h hlength hforks
  simp only [run_readRounds_brace] at h ⊢
  split at h
  · next hclosed =>
    cases h
    exact ⟨r₁', hforks, by rw [hforks.next_eq, if_pos hclosed]⟩
  next hopen =>
  obtain ⟨⟨⟨lo, hi, closed⟩, r₂⟩, hahead, h⟩ := Fault.bind_eq_ok_iff.mp h
  cases closed with
  | true =>
    simp only [if_true] at h
    -- a closed count leaves the reading behind itself, in front of the fork
    obtain ⟨rfl, hrounds⟩ := run_roundsBetween_congr h
    obtain ⟨r', hforks', hahead'⟩ := (Steady.countAhead r).kept hahead hlength hforks
    refine ⟨r', hforks', ?_⟩
    rw [hforks'.next_eq, if_neg hopen, hahead', hforks'.place_eq]
    exact hrounds r₁'
  | false =>
    -- no count after all: the reading goes back, and the brace may be the one of the fork
    cases h
    obtain ⟨r₂', hahead', -⟩ := Looks.countAhead hlength hforks.beside hahead
    refine ⟨r₁', hforks, ?_⟩
    rw [hforks.next_eq, if_neg hopen, hahead']
    rfl

theorem apart_readRounds_brace (r : Reading) :
    (readRounds '\x7b').run r ≠ .error (.beyond .alphabets) := by
  have hexcess : ∀ digits, excess? digits ≠ some .alphabets := by
    intro digits
    unfold excess?
    split
    · simp
    · split <;> simp
  rw [run_readRounds_brace]
  split
  · simp
  intro h
  rcases Fault.bind_eq_error_iff.mp h with hahead | ⟨⟨⟨lo, hi, closed⟩, r₁⟩, -, h⟩
  · exact (Steady.countAhead r).apart hahead
  · cases closed with
    | false => cases h
    | true =>
      simp only [if_true, run_roundsBetween] at h
      split at h
      · next excess hlarge =>
        cases h
        rcases Option.or_eq_some_iff.mp hlarge with hlo | ⟨-, hhi⟩
        · exact hexcess lo hlo
        · exact hexcess hi hhi
      · split at h
        · cases h
        · split at h <;> cases h

/-- A brace that is taken where a repetition sign may stand. -/
theorem steadyAt_brace {α : Type} {next : Option (Nat × Option Nat) → Step α}
    (hbrace : r.source.next = some (.plain '\x7b')) (hnext : ∀ rounds, Steady (next rounds)) :
    SteadyAt (Step.take >>= fun _ => readRounds '\x7b' >>= next) r := by
  refine ⟨(Steady.take r).kept.bind fun _ r₁ _ => (kept_readRounds_brace r₁).bind
    fun rounds r₂ _ => (hnext rounds r₂).kept, ?failed, ?apart⟩
  case failed =>
    intro p h hp
    rw [StateT.run_bind] at h
    rcases Fault.bind_eq_error_iff.mp h with htake | ⟨⟨t, r₁⟩, htake, h⟩
    · exact absurd hp (sparesCounts_take r p htake)
    dsimp only at h
    rw [StateT.run_bind] at h
    rcases Fault.bind_eq_error_iff.mp h with hrounds | ⟨⟨rounds, r₂⟩, hrounds, h⟩
    · -- the count of this very brace
      refine ⟨r.source.after, r.source.rest,
        countFails_of_readRounds hrounds hp (standsAt_of_take htake), fun y p' _ hcount => ?_⟩
      have hlone : (r.withRest y).source.rest ≠ ['\\'] := by
        obtain ⟨d, more, rfl, hd⟩ := hcount.head
        rintro heq
        cases heq
        revert hd
        decide
      obtain ⟨r₁', htake'⟩ := run_take_of_rest hlone
      have hrounds' := readRounds_of_countFails (standsAt_of_take htake') hcount
      refine ⟨r.withRest y, ⟨[], rfl, rfl, rfl, Or.inr ⟨rfl, hbrace⟩⟩, ?_⟩
      rw [run_bind_of_ok htake', StateT.run_bind, hrounds']
      rfl
    · -- a count further on
      obtain ⟨k, x, hcount, hothers⟩ := (hnext rounds r₂).failed h hp
      refine ⟨k, x, hcount, fun y p' hlength hcount' => ?_⟩
      obtain ⟨r₂', hforks₂, h'⟩ := hothers y p' hlength hcount'
      obtain ⟨r₁', hforks₁, hrounds'⟩ := kept_readRounds_brace r₁ hrounds hlength hforks₂
      obtain ⟨r', hforks, htake'⟩ := (Steady.take r).kept htake hlength hforks₁
      exact ⟨r', hforks, by rw [run_bind_of_ok htake', run_bind_of_ok hrounds', h']⟩
  case apart =>
    intro h
    rw [StateT.run_bind] at h
    rcases Fault.bind_eq_error_iff.mp h with htake | ⟨⟨t, r₁⟩, -, h⟩
    · exact (Steady.take r).apart htake
    rw [StateT.run_bind] at h
    rcases Fault.bind_eq_error_iff.mp h with hrounds | ⟨⟨rounds, r₂⟩, -, h⟩
    · exact apart_readRounds_brace r₁ hrounds
    · exact (hnext rounds r₂).apart h

end

theorem Steady.readRounds_sign {c : Char} (hc : isRepeatSign c = true) (hbrace : c ≠ '\x7b') :
    Steady (readRounds c) := by
  simp only [isRepeatSign, Bool.or_eq_true, beq_iff_eq] at hc
  rcases hc with ((rfl | rfl) | rfl) | rfl
  · exact .pure _
  · exact .pure _
  · exact .pure _
  · exact absurd rfl hbrace

/-- The readers of patterns are steady where so much fuel is left. -/
structure ReadersSteady (fuel : Nat) : Prop where
  alternatives : ∀ outermost verbose done,
    Steady (readAlternatives fuel outermost verbose done)
  sequence : ∀ first verbose done, Steady (readSequence fuel first verbose done)
  group : ∀ start first verbose, Steady (readGroup fuel start first verbose)

section

variable {fuel : Nat}

theorem steady_readAlternatives_succ (h : ReadersSteady fuel) (outermost verbose : Bool)
    (done : List Pattern) : Steady (readAlternatives (fuel + 1) outermost verbose done) := by
  rw [readAlternatives]
  refine (h.sequence _ _ _).bind fun p => (Steady.takeIf _).bind fun bar => .ite ?_ (.pure _)
  exact .get_bind (fun r => h.alternatives _ _ _) fun _ _ _ => rfl

/-- Goes on behind a repetition sign, which stands for itself where no rounds are asked for. -/
def readBehindSign (fuel : Nat) (first verbose : Bool) (done : List Pattern) (start : Nat)
    (sign : Char) : Option (Nat × Option Nat) → Step Pattern
  | none => readSequence fuel first verbose (.char (.one sign.toNat) :: done)
  | some (least, most) => do
    readSequence fuel first verbose (← repeatLast start least most done)

theorem steady_readSequence_succ (h : ReadersSteady fuel) (first verbose : Bool)
    (done : List Pattern) : Steady (readSequence (fuel + 1) first verbose done) := by
  rw [readSequence]
  intro r
  refine .peek_bind ?_
  split
  · exact Steady.pure _ r
  · exact Steady.pure _ r
  · exact Steady.pure _ r
  next t _ _ hnext =>
  refine .place_bind ?_
  have hrounds : ∀ sign rounds,
      Steady (readBehindSign fuel first verbose done r.source.place sign rounds) := by
    intro sign rounds
    cases rounds with
    | none => exact h.sequence _ _ _
    | some rounds => exact (Steady.repeatLast _ _ _ _).bind fun _ => h.sequence _ _ _
  -- the brace is taken and looked behind as one step, for the count may fail at this very brace
  by_cases hbrace : t = .plain '\x7b'
  · subst hbrace
    have hfiller : isFiller (.plain '\x7b') = false := by decide
    have hcomment : decide (Token.plain '\x7b' = .plain '#') = false := by decide
    simp only [hfiller, hcomment, Bool.and_false, Bool.false_eq_true, if_false]
    exact steadyAt_brace hnext (hrounds _)
  · refine (Steady.take.bind fun _ => .ite (h.sequence _ _ _) (.ite ?_ ?_)) r
    · exact Steady.remaining.bind fun _ => (Steady.skipPast _ _).bind fun _ => h.sequence _ _ _
    · split
      · exact (h.group _ _ _).bind fun _ => h.sequence _ _ _
      · next c _ _ _ =>
        split
        · next hsign =>
          have hother : c ≠ '\x7b' := fun hc => hbrace (congrArg Token.plain hc)
          exact (Steady.readRounds_sign hsign hother).bind (hrounds c)
        · exact (Steady.readSingle _).bind fun _ => h.sequence _ _ _
      · exact (Steady.readSingle _).bind fun _ => h.sequence _ _ _

theorem steady_readGroup_succ (h : ReadersSteady fuel) (start : Nat) (first verbose : Bool) :
    Steady (readGroup (fuel + 1) start first verbose) := by
  rw [readGroup]
  refine (Steady.readOpening _).bind fun opening => ?_
  have hseal : ∀ sealedFrom, Steady (modify fun r : Reading => { r with sealedFrom }) :=
    fun _ => .modifies (fun _ => rfl) fun _ _ => rfl
  cases opening with
  | closed p => exact .pure _
  | options =>
    have hswitched : Steady (do
        let switched := (← get).switched.contains 'x'
        return (none, verbose || switched) : Step (Option Pattern × Bool)) :=
      .get_bind (fun _ => .pure _) fun _ _ _ => rfl
    exact .ite (Steady.place.bind fun _ => (Steady.refuse (by decide) _).bind fun _ => hswitched)
      hswitched
  | capture name =>
    exact (Steady.openGroup _).bind fun _ => (h.alternatives _ _ _).bind fun _ =>
      (Steady.close _).bind fun _ => (Steady.closeGroup _ _).bind fun _ => .pure _
  | plain change =>
    exact (h.alternatives _ _ _).bind fun _ => (Steady.close _).bind fun _ => .pure _
  | atomic =>
    exact (h.alternatives _ _ _).bind fun _ => (Steady.close _).bind fun _ => .pure _
  | look behind negated =>
    refine .get_bind (fun r => ?_) fun _ _ _ => rfl
    have hclose : ∀ body, Steady (do
        close start
        return (some (.look behind negated body), verbose) : Step (Option Pattern × Bool)) :=
      fun body => (Steady.close _).bind fun _ => .pure _
    have hbody : Steady (do
        let body ← readAlternatives fuel false verbose []
        if behind then modify fun s => { s with sealedFrom := r.sealedFrom }
        close start
        return (some (.look behind negated body), verbose) : Step (Option Pattern × Bool)) :=
      (h.alternatives _ _ _).bind fun body =>
        .ite ((hseal _).bind fun _ => hclose body) (hclose body)
    exact .ite (Steady.groupCount.bind fun _ => (hseal _).bind fun _ => hbody) hbody
  | conditional =>
    refine Steady.conditionGroup.bind fun number => (Steady.checkSeal _).bind fun _ =>
      (h.sequence _ _ _).bind fun yes => (Steady.takeIf _).bind fun bar => ?_
    have hclose : ∀ no, Steady (do
        close start
        return (some (.conditional number yes no), verbose) : Step (Option Pattern × Bool)) :=
      fun no => (Steady.close _).bind fun _ => .pure _
    refine .ite ((h.sequence _ _ _).bind fun no => Steady.peek.bind fun t => .unless (by decide) ?_)
      ((Steady.pure _).bind fun _ => hclose _)
    exact (Steady.pure _).bind fun _ => hclose _

end

theorem readersSteady (fuel : Nat) : ReadersSteady fuel := by
  induction fuel with
  | zero =>
    refine ⟨fun _ _ _ => ?_, fun _ _ _ => ?_, fun _ _ _ => ?_⟩
    · rw [readAlternatives]
      exact .pure _
    · rw [readSequence]
      exact .pure _
    · rw [readGroup]
      exact .pure _
  | succ fuel ih =>
    exact ⟨steady_readAlternatives_succ ih, steady_readSequence_succ ih, steady_readGroup_succ ih⟩

end PayloadCheck.Pattern
