import Mathlib
import PayloadCheck.Pattern.Expression
import PayloadCheck.Proofs.Pattern.SteadyReaders

/-!
# Patterns beyond what can be compiled

A pattern whose counts and alphabets are within bounds is compiled, or it is refused as malformed in
the name of the rule. The others are told exactly: a count that is too large stands where any count
is read, which is where a count written upside down over it is refused, or the two alphabets are
both switched on for the whole pattern.
-/

namespace PayloadCheck.Pattern

open PayloadCheck.Number PayloadCheck.Text

/-- A count with a number that is too large; of two such numbers the first one tells why. -/
def IsTooLarge (count : List Char) (excess : Excess) : Prop :=
  (count.all isAsciiDigit = true ∧ excess? count = some excess) ∨
    ∃ lo hi, lo.all isAsciiDigit = true ∧ hi.all isAsciiDigit = true ∧ count = lo ++ ',' :: hi ∧
      (excess? lo).or (excess? hi) = some excess

/-- What is known before a text is looked at. -/
def Reading.before (body : List Char) : Reading := { source := ⟨none, 0, body⟩ }

/-- Reads the alternatives of a whole pattern. -/
def readBody (verbose : Bool) (length : Nat) : Step Pattern := do
  let _ ← Step.take
  readAlternatives (4 * length + 8) true verbose []

theorem Steady.readBody (verbose : Bool) (length : Nat) : Steady (readBody verbose length) :=
  Steady.take.bind fun _ => (readersSteady _).alternatives _ _ _

/-- The letters that a pattern switches on for the whole of itself, if its alternatives can be
read. -/
def lettersSwitched? (body : List Char) (options : Options) : Option (List Char) :=
  match (readBody options.verbose body.length).run (.before body) with
  | .ok (_, r) => some r.switched
  | .error _ => none

/-- A pattern is well formed and cannot be used all the same. -/
inductive GoesBeyond (body : List Char) (options : Options) : Excess → Prop
  | count {before count after : List Char} {excess : Excess}
      (hbody : body = before ++ '\x7b' :: (count ++ '\x7d' :: after)) (hafter : after ≠ ['\\'])
      (hcount : IsTooLarge count excess)
      (hplace : Expression.read
        (before ++ '\x7b' :: ['2', ',', '1', '\x7d'] ++ body.drop (before.length + 5)) options =
          .error (.malformed upsideDown (some (before.length + 1)))) :
      GoesBeyond body options excess
  | alphabets {letters : List Char} (hletters : lettersSwitched? body options = some letters)
      (hascii : 'a' ∈ letters) (hunicode : 'u' ∈ letters) : GoesBeyond body options .alphabets

/-- Refuses a condition on a group that there is not. -/
def checkConditions (r : Reading) (p : Pattern) : Step Pattern :=
  match r.conditions.find? fun (number, _) => r.widths.length ≤ number with
  | some (number, place) =>
    throw (.malformed s!"invalid group reference {natText number}" (some place))
  | none => return p

/-- What is looked at once the alternatives are read. -/
def finish (p : Pattern) : Step Pattern := do
  let r ← get
  if r.switched.contains 'a' && r.switched.contains 'u' then throw (.beyond .alphabets)
  if (← Step.peek).isSome then Step.refuse "unbalanced parenthesis"
  checkConditions r p

theorem read_eq (body : List Char) (options : Options) : Expression.read body options = do
    let (p, r) ← (readBody options.verbose body.length).run (.before body)
    let (p, r) ← (finish p).run r
    check (r.switched.contains 't') p
    return { body := String.ofList body, options := options.switchOn r.switched, pattern := p } := by
  have hpattern : readPattern options.verbose body.length =
      readAlternatives (4 * body.length + 8) true options.verbose [] >>= finish := rfl
  unfold Expression.read readBody Source.ofChars
  rw [hpattern]
  simp only [StateT.run_bind, run_take, bind_assoc]
  have hadvance : (Reading.before body).source.advance = Source.advance ⟨none, 0, body⟩ := rfl
  rw [hadvance]
  cases Source.advance ⟨none, 0, body⟩ <;> rfl

section

variable {body : List Char} {options : Options}

theorem read_of_error {e : Problem}
    (h : (readBody options.verbose body.length).run (.before body) = .error e) :
    Expression.read body options = .error e := by
  rw [read_eq, h]
  rfl

/-- A problem that neither a count has nor the choice of two alphabets. -/
def Problem.IsPlain (e : Problem) : Prop := ¬ e.OfCount ∧ e ≠ .beyond .alphabets

theorem isPlain_malformed {detail : String} (h : detail.toList.take 3 ≠ ['m', 'i', 'n'])
    (place : Option Nat) : (Problem.malformed detail place).IsPlain :=
  ⟨not_ofCount_malformed h place, by simp⟩

theorem finish_cases (p : Pattern) (r : Reading) :
    if 'a' ∈ r.switched ∧ 'u' ∈ r.switched then
      (finish p).run r = .error (.beyond .alphabets)
    else Raises Problem.IsPlain ((finish p).run r) := by
  split
  · next hboth =>
    have hcontains : (r.switched.contains 'a' && r.switched.contains 'u') = true := by
      simp [hboth]
    unfold finish
    rw [run_get_bind, if_pos hcontains]
    rfl
  · next hboth =>
    have hcontains : ¬ (r.switched.contains 'a' && r.switched.contains 'u') = true := by
      simpa using hboth
    unfold finish
    rw [run_get_bind, if_neg hcontains, run_peek_bind]
    split
    · exact .error (isPlain_malformed (by decide) _)
    · unfold checkConditions
      split
      · exact .error (isPlain_malformed (by simp [toString]) _)
      · exact .ok _

theorem raises_check (isTemplate : Bool) (p : Pattern) :
    Raises Problem.IsPlain (check isTemplate p) := by
  induction p with
  | empty | char | anchor | again => exact .ok _
  | seq p q hp hq | either p q hp hq | conditional n p q hp hq =>
    exact hp.bind fun _ => hq
  | group n change p hp | atomic p hp => exact hp
  | repeated manner least most p hp =>
    unfold check
    split
    · exact .error (isPlain_malformed (by simp [toString]) _)
    · exact hp
  | look behind negated p hp =>
    unfold check
    split
    · refine Raises.bind ?_ fun _ => hp
      unfold checkFixedWidth
      exact .ite (.error (isPlain_malformed (by decide) _))
        (.ite (.error (isPlain_malformed (by decide) _)) (.ok _))
    · exact hp

/-- Behind the alternatives there is no count to be read, and two alphabets are chosen by then. -/
theorem read_cases (body : List Char) (options : Options) :
    (∃ e, (readBody options.verbose body.length).run (.before body) = .error e ∧
      Expression.read body options = .error e) ∨
    ∃ p r, (readBody options.verbose body.length).run (.before body) = .ok (p, r) ∧
      if 'a' ∈ r.switched ∧ 'u' ∈ r.switched then
        Expression.read body options = .error (.beyond .alphabets)
      else Raises Problem.IsPlain (Expression.read body options) := by
  rw [read_eq]
  cases hrun : (readBody options.verbose body.length).run (.before body) with
  | error e => exact Or.inl ⟨e, rfl, rfl⟩
  | ok result =>
    obtain ⟨p, r⟩ := result
    refine Or.inr ⟨p, r, rfl, ?_⟩
    have hfinish := finish_cases p r
    split
    · next hboth =>
      rw [if_pos hboth] at hfinish
      change ((finish p).run r >>= _) = _
      rw [hfinish]
      rfl
    · next hboth =>
      rw [if_neg hboth] at hfinish
      exact hfinish.bind fun _ => (raises_check _ _).bind fun _ => .ok _

theorem forks_before {k : Nat} {x y : List Char} {r' : Reading}
    (h : Forks k x y (.before body) r') :
    ∃ before, body = before ++ '\x7b' :: x ∧ r' = .before (before ++ '\x7b' :: y) ∧
      k = before.length + 1 := by
  obtain ⟨w, hrest, rfl, rfl, hlast | ⟨-, hnext⟩⟩ := h
  · obtain ⟨before, rfl⟩ := List.getLast?_eq_some_iff.mp hlast
    refine ⟨before, ?_, ?_, ?_⟩
    · simpa [Reading.before] using hrest
    · simp [Reading.before, Reading.withRest]
    · simp [Reading.before]
  · cases hnext

theorem foldl_digits_lt {digits : List Char} (h : digits.all isAsciiDigit = true) (n : Nat) :
    digits.foldl (fun n c => 10 * n + (c.toNat - 48)) n < (n + 1) * 10 ^ digits.length := by
  induction digits generalizing n with
  | nil => simp
  | cons c rest ih =>
    rw [List.all_cons, Bool.and_eq_true] at h
    have hrange : 48 ≤ c.toNat ∧ c.toNat ≤ 57 := by simpa [isAsciiDigit] using h.1
    have hle : 10 * n + (c.toNat - 48) + 1 ≤ (n + 1) * 10 := by omega
    calc rest.foldl (fun n c => 10 * n + (c.toNat - 48)) (10 * n + (c.toNat - 48))
        < (10 * n + (c.toNat - 48) + 1) * 10 ^ rest.length := ih h.2 _
      _ ≤ (n + 1) * 10 * 10 ^ rest.length := Nat.mul_le_mul_right _ hle
      _ = (n + 1) * 10 ^ (c :: rest).length := by
        rw [List.length_cons, Nat.pow_succ, Nat.mul_assoc, Nat.mul_comm 10]

theorem le_length_of_excess {digits : List Char} {excess : Excess}
    (hall : digits.all isAsciiDigit = true) (h : excess? digits = some excess) :
    10 ≤ digits.length := by
  refine Nat.not_lt.mp fun hshort => ?_
  have hlt : readDecimal digits < roundLimit := by
    have hpow : 10 ^ digits.length ≤ 10 ^ 9 := Nat.pow_le_pow_right (by decide) (by omega)
    have hfold := foldl_digits_lt hall 0
    unfold readDecimal roundLimit
    omega
  have hfew : ¬ maxDigits < digits.length := by
    have hlimit : maxDigits = 4300 := rfl
    omega
  rw [excess?, if_neg hfew, if_neg (Nat.not_le.mpr hlt)] at h
  cases h

theorem IsTooLarge.le_length {count : List Char} {excess : Excess} (h : IsTooLarge count excess) :
    10 ≤ count.length := by
  rcases h with ⟨hall, hlarge⟩ | ⟨lo, hi, hlo, hhi, rfl, hlarge⟩
  · exact le_length_of_excess hall hlarge
  · rw [List.length_append, List.length_cons]
    rcases Option.or_eq_some_iff.mp hlarge with hlarge | ⟨-, hlarge⟩
    · have := le_length_of_excess hlo hlarge
      omega
    · have := le_length_of_excess hhi hlarge
      omega

theorem countFails_beyond_iff {k : Nat} {x : List Char} {excess : Excess} :
    CountFails k x (.beyond excess) ↔
      ∃ count after, x = count ++ '\x7d' :: after ∧ after ≠ ['\\'] ∧ IsTooLarge count excess := by
  constructor
  · intro h
    cases h with
    | one hlo hrest hlarge => exact ⟨_, _, rfl, hrest, Or.inl ⟨hlo, hlarge⟩⟩
    | @two lo hi rest _ hlo hhi hrest hlarge =>
      refine ⟨lo ++ ',' :: hi, rest, ?_, hrest, Or.inr ⟨lo, hi, hlo, hhi, rfl, hlarge⟩⟩
      rw [List.append_assoc, List.cons_append]
  · rintro ⟨count, after, rfl, hafter, ⟨hall, hlarge⟩ | ⟨lo, hi, hlo, hhi, rfl, hlarge⟩⟩
    · exact .one hall hafter hlarge
    · rw [List.append_assoc, List.cons_append]
      exact .two hlo hhi hafter hlarge

theorem CountFails.place_eq {k place : Nat} {x : List Char} {detail : String}
    (h : CountFails k x (.malformed detail (some place))) : place = k := by
  cases h
  rfl

theorem countFails_overwritten (k : Nat) {rest : List Char} (hrest : rest ≠ ['\\']) :
    CountFails k (['2', ',', '1', '\x7d'] ++ rest) (.malformed upsideDown (some k)) := by
  have htwo : ['2'].all isAsciiDigit = true := by decide
  have hone : ['1'].all isAsciiDigit = true := by decide
  exact .upsideDown htwo hone hrest (by decide) (by decide) (by decide)

/-- A pattern that is refused for a count is refused at the brace of that count, and any other count
that fails is refused there as well. -/
theorem exists_count_of_read {e : Problem} (he : e.OfCount)
    (h : Expression.read body options = .error e) :
    ∃ before x, body = before ++ '\x7b' :: x ∧ CountFails (before.length + 1) x e ∧
      ∀ y e', x.length = y.length → CountFails (before.length + 1) y e' →
        Expression.read (before ++ '\x7b' :: y) options = .error e' := by
  rcases read_cases body options with ⟨e', hrun, hread⟩ | ⟨p, r, hrun, hread⟩
  · obtain rfl : e' = e := by
      rw [hread] at h
      cases h
      rfl
    obtain ⟨k, x, hcount, hothers⟩ :=
      (Steady.readBody options.verbose body.length (.before body)).failed hrun he
    -- the text itself tells where its brace is, and that place is the same for every other text
    obtain ⟨r', hforks, -⟩ := hothers x e' rfl hcount
    obtain ⟨before, hbody, -, rfl⟩ := forks_before hforks
    refine ⟨before, x, hbody, hcount, fun y e'' hlength hcount' => ?_⟩
    obtain ⟨r', hforks', hrun'⟩ := hothers y e'' hlength hcount'
    obtain ⟨before', hbody', rfl, hk⟩ := forks_before hforks'
    obtain rfl : before = before' := (List.append_inj (hbody.symm.trans hbody') (by omega)).1
    have hsame : body.length = (before ++ '\x7b' :: y).length := by
      rw [hbody]
      simp [hlength]
    exact read_of_error (hsame ▸ hrun')
  · -- what is looked at afterwards fails for no count
    split at hread
    · rw [hread] at h
      cases h
      exact absurd rfl he
    · exact absurd he (hread e h).1

theorem read_eq_alphabets_iff :
    Expression.read body options = .error (.beyond .alphabets) ↔
      ∃ letters, lettersSwitched? body options = some letters ∧ 'a' ∈ letters ∧ 'u' ∈ letters := by
  unfold lettersSwitched?
  rcases read_cases body options with ⟨e, hrun, hread⟩ | ⟨p, r, hrun, hread⟩
  · rw [hrun, hread]
    refine iff_of_false ?_ (by simp)
    intro he
    obtain rfl : e = .beyond .alphabets := by
      cases he
      rfl
    exact (Steady.readBody options.verbose body.length (.before body)).apart hrun
  · rw [hrun]
    split at hread
    · next hboth => exact iff_of_true hread ⟨_, rfl, hboth⟩
    · next hboth =>
      refine iff_of_false ?_ ?_
      · intro he
        exact (hread _ he).2 rfl
      · rintro ⟨letters, hletters, hin⟩
        cases hletters
        exact hboth hin

theorem goesBeyond_of_read {excess : Excess} (hcount : excess ≠ .alphabets)
    (h : Expression.read body options = .error (.beyond excess)) :
    GoesBeyond body options excess := by
  obtain ⟨before, x, hbody, hfails, hothers⟩ := exists_count_of_read (e := .beyond excess) hcount h
  obtain ⟨count, after, rfl, hafter, hlarge⟩ := countFails_beyond_iff.mp hfails
  -- the count is long enough to be written over by one that is upside down
  have hlong := hlarge.le_length
  have hdrop : body.drop (before.length + 5) = (count ++ '\x7d' :: after).drop 4 := by
    rw [hbody, List.drop_append, List.drop_of_length_le (by omega), List.nil_append]
    have hsub : before.length + 5 - before.length = 5 := by omega
    rw [hsub, List.drop_succ_cons]
  have hrest : (count ++ '\x7d' :: after).drop 4 ≠ ['\\'] := by
    intro hlone
    have hlength := congrArg List.length hlone
    simp at hlength
    omega
  have hsame : (count ++ '\x7d' :: after).length =
      (['2', ',', '1', '\x7d'] ++ (count ++ '\x7d' :: after).drop 4).length := by
    simp
    omega
  have hplace := hothers _ _ hsame (countFails_overwritten _ hrest)
  refine .count hbody hafter hlarge ?_
  rw [hdrop, List.append_assoc]
  exact hplace

theorem read_of_goesBeyond {excess : Excess} (h : GoesBeyond body options excess) :
    Expression.read body options = .error (.beyond excess) := by
  cases h with
  | alphabets hletters hascii hunicode =>
    exact read_eq_alphabets_iff.mpr ⟨_, hletters, hascii, hunicode⟩
  | @count before count after _ hbody hafter hcount hplace =>
    obtain ⟨before', x, hbefore, hfails, hothers⟩ := exists_count_of_read (by rfl) hplace
    have hlong := hcount.le_length
    -- the place in the refusal tells that it was this brace
    have hlength : before.length = before'.length := by
      have := hfails.place_eq
      omega
    rw [List.append_assoc] at hbefore
    obtain ⟨rfl, hx⟩ := List.append_inj hbefore hlength
    have hsame : x.length = (count ++ '\x7d' :: after).length := by
      have := congrArg List.length hx
      simp [hbody] at this
      simp
      omega
    rw [hbody]
    exact hothers _ _ hsame (countFails_beyond_iff.mpr ⟨count, after, rfl, hafter, hcount⟩)

theorem read_eq_beyond_iff {excess : Excess} :
    Expression.read body options = .error (.beyond excess) ↔ GoesBeyond body options excess := by
  refine ⟨fun h => ?_, read_of_goesBeyond⟩
  by_cases hcount : excess = .alphabets
  · subst hcount
    obtain ⟨letters, hletters, hascii, hunicode⟩ := read_eq_alphabets_iff.mp h
    exact .alphabets hletters hascii hunicode
  · exact goesBeyond_of_read hcount h

end

end PayloadCheck.Pattern
