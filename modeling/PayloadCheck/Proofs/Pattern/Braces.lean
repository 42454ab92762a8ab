import PayloadCheck.Proofs.Pattern.Counts
import PayloadCheck.Proofs.Raising

/-!
# Counts in braces

What is read behind an opening brace where a repetition sign may stand: the digits of one number or
two up to the closing brace are looked at first (`countAhead`), and only then is it seen what they
ask for (`roundsBetween`). So the reading fails for a count iff the text begins with one that fails.
-/

namespace PayloadCheck.Pattern

open PayloadCheck.Number PayloadCheck.Text

theorem roundsOf_eq (digits : List Char) : roundsOf digits =
    match excess? digits with
    | some excess => throw (.beyond excess)
    | none => return readDecimal digits := by
  unfold roundsOf excess?
  by_cases hlong : maxDigits < digits.length
  · simp only [hlong, if_true]
    rfl
  · by_cases hlarge : roundLimit ≤ readDecimal digits
    · simp only [hlong, hlarge, if_false, if_true]
      rfl
    · simp only [hlong, hlarge, if_false]

/-- The digits of a number. -/
def digitsAhead : Step (List Char) := do Step.takeWhile isAsciiDigit (← Step.remaining)

/-- The digits of the two numbers of a count, and whether the count is closed. A count of one
number has it twice. -/
def countAhead : Step (List Char × List Char × Bool) := do
  let lo ← digitsAhead
  let hi ← if ← Step.takeIf ',' then digitsAhead else pure lo
  return (lo, hi, ← Step.takeIf '\x7d')

def roundsBetween (start : Nat) (lo hi : List Char) : Step (Option (Nat × Option Nat)) := do
  let least ← roundsOf lo
  if hi.isEmpty then return some (least, none)
  let most ← roundsOf hi
  if most < least then Step.refuse upsideDown ((← Step.place) - start)
  return some (least, some most)

theorem readRounds_brace : readRounds '\x7b' = (do
    if (← Step.peek) = some (.plain '\x7d') then return none
    let before ← get
    let (lo, hi, closed) ← countAhead
    if !closed then
      set before
      return none
    roundsBetween before.source.place lo hi) := by
  rw [readRounds.eq_4 _ (by decide) (by decide) (by decide)]
  unfold countAhead digitsAhead roundsBetween
  simp only [pure_bind, bind_assoc]
  refine bind_congr fun t => ite_congr rfl (fun _ => rfl) fun _ => ?_
  refine bind_congr fun before => bind_congr fun n => bind_congr fun lo => bind_congr fun comma => ?_
  cases comma with
  | true =>
    simp only [if_true, pure_bind, bind_assoc]
    refine bind_congr fun n => bind_congr fun hi => bind_congr fun closed => ?_
    cases lo <;> rfl
  | false =>
    simp only [Bool.false_eq_true, if_false, pure_bind, bind_assoc]
    refine bind_congr fun closed => ?_
    cases lo <;> rfl

/-- A step that fails for no count. -/
def SparesCounts {α : Type} (f : Step α) : Prop := ∀ r, Raises (¬ ·.OfCount) (f.run r)

section

variable {α β : Type} {f : Step α}

theorem SparesCounts.bind {next : α → Step β} (h : SparesCounts f)
    (hnext : ∀ a, SparesCounts (next a)) : SparesCounts (f >>= next) :=
  fun r => (h r).bind fun (a, r₁) => hnext a r₁

theorem SparesCounts.pure (a : α) : SparesCounts (Pure.pure a : Step α) := fun r => .ok (a, r)

theorem SparesCounts.peek_bind {next : Option Token → Step α} (h : ∀ t, SparesCounts (next t)) :
    SparesCounts (Step.peek >>= next) := fun r => h _ r

theorem sparesCounts_take : SparesCounts Step.take := by
  intro r e hfails
  rw [problem_of_take hfails]
  exact not_ofCount_malformed (by decide) _

theorem sparesCounts_takeIf (c : Char) : SparesCounts (Step.takeIf c) := by
  refine .peek_bind fun t => ?_
  split
  · exact sparesCounts_take.bind fun _ => .pure _
  · exact .pure _

theorem sparesCounts_takeWhile (p : Char → Bool) (n : Nat) :
    SparesCounts (Step.takeWhile p n) := by
  induction n with
  | zero => exact .pure _
  | succ n ih =>
    refine .peek_bind fun t => ?_
    split
    · split
      · exact sparesCounts_take.bind fun _ => ih.bind fun _ => .pure _
      · exact .pure _
    · exact .pure _

theorem sparesCounts_digitsAhead : SparesCounts digitsAhead :=
  fun r => sparesCounts_takeWhile _ _ r

theorem sparesCounts_countAhead : SparesCounts countAhead := by
  refine sparesCounts_digitsAhead.bind fun _ => (sparesCounts_takeIf _).bind fun comma => ?_
  split
  · exact sparesCounts_digitsAhead.bind fun _ => (sparesCounts_takeIf _).bind fun _ => .pure _
  · exact (SparesCounts.pure _).bind fun _ => (sparesCounts_takeIf _).bind fun _ => .pure _

end

theorem run_roundsBetween (start : Nat) (lo hi : List Char) (r : Reading) :
    (roundsBetween start lo hi).run r =
      match (excess? lo).or (excess? hi) with
      | some excess => .error (.beyond excess)
      | none =>
        if hi = [] then .ok (some (readDecimal lo, none), r)
        else if readDecimal hi < readDecimal lo then
          .error (.malformed upsideDown (some (r.source.place - (r.source.place - start))))
        else .ok (some (readDecimal lo, some (readDecimal hi)), r) := by
  unfold roundsBetween
  rw [roundsOf_eq]
  cases excess? lo with
  | some excess => rfl
  | none =>
    rw [roundsOf_eq]
    cases hi with
    | nil => rfl
    | cons d more =>
      cases excess? (d :: more) with
      | some excess => rfl
      | none =>
        by_cases hlt : readDecimal (d :: more) < readDecimal lo
        · simp [hlt]
          rfl
        · simp [hlt]
          rfl

/-! ### Texts that are read -/

/-- The text from the next token on. -/
def Source.text (s : Source) : List Char := (s.next.map Token.chars).getD [] ++ s.rest

/-- A reading whose next token begins a text at a place. -/
structure StandsAt (r : Reading) (k : Nat) (cs : List Char) : Prop where
  place : r.source.place = k
  text : r.source.text = cs
  done : r.source.next = none → r.source.rest = []

section

variable {r r₁ : Reading} {k n : Nat} {c : Char} {cs rest : List Char} {p : Char → Bool}

theorem standsAt_of_take {t : Option Token} (h : Step.take.run r = .ok (t, r₁)) :
    StandsAt r₁ r.source.after r.source.rest := by
  obtain ⟨-, ⟨hnil, rfl⟩ | ⟨token, hrest, hnext, hafter, -⟩⟩ := take_cases h
  · exact ⟨rfl, rfl, fun _ => hnil⟩
  · refine ⟨?_, ?_, ?_⟩
    · simp [Source.place, hnext, hafter]
    · simp [Source.text, hnext, hrest]
    · simp [hnext]

theorem rest_of_take {t : Option Token} (h : Step.take.run r = .ok (t, r₁)) :
    r.source.rest ≠ ['\\'] := by
  intro hlone
  rw [run_take, Source.advance, hlone] at h
  cases h

theorem StandsAt.next_eq (h : StandsAt r k (c :: rest)) (hplain : c ≠ '\\') :
    r.source.next = some (.plain c) ∧ r.source.rest = rest := by
  have htext := h.text
  unfold Source.text at htext
  cases hnext : r.source.next with
  | none =>
    rw [hnext, h.done hnext] at htext
    simp at htext
  | some token =>
    rw [hnext] at htext
    cases token with
    | plain d => simpa [Token.chars] using htext
    | escaped d =>
      simp only [Option.map_some, Token.chars, Option.getD_some, List.cons_append,
        List.cons.injEq] at htext
      exact absurd htext.1.symm hplain

theorem place_le_after (r : Reading) : r.source.place ≤ r.source.after := Nat.sub_le _ _

theorem run_take_of_rest (hrest : r.source.rest ≠ ['\\']) :
    ∃ r₁, Step.take.run r = .ok (r.source.next, r₁) := by
  have hadvance : ∃ t, r.source.advance = .ok t := by
    unfold Source.advance
    split
    · exact ⟨_, rfl⟩
    · next hlone => exact absurd hlone hrest
    · exact ⟨_, rfl⟩
    · exact ⟨_, rfl⟩
  obtain ⟨t, ht⟩ := hadvance
  exact ⟨_, by rw [run_take, ht]; rfl⟩

theorem run_peek_bind {α : Type} (next : Option Token → Step α) (r : Reading) :
    (Step.peek >>= next).run r = (next r.source.next).run r := rfl

theorem run_get_bind {α : Type} (next : Reading → Step α) (r : Reading) :
    (get >>= next).run r = (next r).run r := rfl

theorem run_takeIf (c : Char) (r : Reading) : (Step.takeIf c).run r =
    if r.source.next = some (.plain c) then do
      let (_, r₁) ← Step.take.run r
      return (true, r₁)
    else .ok (false, r) := by
  rw [Step.takeIf, run_peek_bind]
  split
  · rw [StateT.run_bind]
    rfl
  · rfl

theorem run_takeIf_self (h : StandsAt r k (c :: rest)) (hplain : c ≠ '\\')
    (hrest : rest ≠ ['\\']) :
    ∃ r₁, (Step.takeIf c).run r = .ok (true, r₁) ∧ StandsAt r₁ r.source.after rest := by
  obtain ⟨hnext, rfl⟩ := h.next_eq hplain
  obtain ⟨r₁, htake⟩ := run_take_of_rest hrest
  refine ⟨r₁, ?_, standsAt_of_take htake⟩
  rw [run_takeIf, if_pos hnext, htake]
  rfl

theorem run_takeIf_of_ne {d : Char} (h : StandsAt r k (d :: rest)) (hplain : d ≠ '\\')
    (hne : d ≠ c) : (Step.takeIf c).run r = .ok (false, r) := by
  rw [run_takeIf, if_neg]
  rw [(h.next_eq hplain).1]
  simpa using hne

theorem takeIf_cases {b : Bool} (h : (Step.takeIf c).run r = .ok (b, r₁)) (hr : StandsAt r k cs) :
    (b = false ∧ r₁ = r) ∨
      b = true ∧ ∃ rest, cs = c :: rest ∧ rest ≠ ['\\'] ∧ StandsAt r₁ r.source.after rest := by
  rw [run_takeIf] at h
  split at h
  · next hnext =>
    obtain ⟨⟨t, r₂⟩, htake, hok⟩ := Fault.bind_eq_ok_iff.mp h
    cases hok
    refine Or.inr ⟨rfl, r.source.rest, ?_, rest_of_take htake, standsAt_of_take htake⟩
    rw [← hr.text, Source.text, hnext]
    rfl
  · cases h
    exact Or.inl ⟨rfl, rfl⟩

theorem run_takeWhile_cons (hnext : r.source.next = some (.plain c)) (hc : p c = true) :
    (Step.takeWhile p (n + 1)).run r = do
      let (_, r₁) ← Step.take.run r
      let (ds, r₂) ← (Step.takeWhile p n).run r₁
      return (c :: ds, r₂) := by
  rw [Step.takeWhile, run_peek_bind, hnext]
  simp only [hc, if_true, StateT.run_bind]
  rfl

theorem run_takeWhile_stop (h : ∀ c, r.source.next = some (.plain c) → p c = false) :
    (Step.takeWhile p n).run r = .ok ([], r) := by
  cases n with
  | zero => rfl
  | succ n =>
    rw [Step.takeWhile, run_peek_bind]
    split
    · next c hnext =>
      rw [h c hnext]
      rfl
    · rfl

theorem run_takeWhile (hescape : p '\\' = false) {ds : List Char} (hall : ds.all p = true)
    (hstop : p c = false) (hplain : c ≠ '\\') (h : StandsAt r k (ds ++ c :: rest))
    (hn : ds.length ≤ n) :
    ∃ r₁ k₁, (Step.takeWhile p n).run r = .ok (ds, r₁) ∧ StandsAt r₁ k₁ (c :: rest) ∧ k ≤ k₁ := by
  -- on the characters that are taken; what stands behind them is the same all along
  induction ds generalizing r k n with
  | nil =>
    refine ⟨r, k, run_takeWhile_stop fun d hd => ?_, h, Nat.le_refl k⟩
    rw [(h.next_eq hplain).1] at hd
    cases hd
    exact hstop
  | cons d more ih =>
    rw [List.all_cons, Bool.and_eq_true] at hall
    cases n with
    | zero => exact absurd hn (by simp)
    | succ n =>
      have hd : d ≠ '\\' := by
        rintro rfl
        rw [hescape] at hall
        exact absurd hall.1 (by simp)
      obtain ⟨hnext, hrest⟩ := h.next_eq hd
      have hlone : r.source.rest ≠ ['\\'] := by
        rw [hrest]
        cases more with
        | nil => simpa using fun h _ => hplain h
        | cons e more => simp
      obtain ⟨r₁, htake⟩ := run_take_of_rest hlone
      have hr₁ : StandsAt r₁ r.source.after (more ++ c :: rest) := by
        rw [← List.append_eq, ← hrest]
        exact standsAt_of_take htake
      obtain ⟨r₂, k₂, hwhile, hr₂, hle⟩ := ih hall.2 hr₁ (Nat.le_of_succ_le_succ hn)
      refine ⟨r₂, k₂, ?_, hr₂, ?_⟩
      · rw [run_takeWhile_cons hnext hall.1, htake]
        change ((Step.takeWhile p n).run r₁ >>= _) = _
        rw [hwhile]
        rfl
      · have := place_le_after r
        rw [h.place] at this
        omega

theorem takeWhile_cases {ds : List Char} (h : (Step.takeWhile p n).run r = .ok (ds, r₁))
    (hr : StandsAt r k cs) : ds.all p = true ∧ ∃ k₁ rest, cs = ds ++ rest ∧ StandsAt r₁ k₁ rest ∧
      k ≤ k₁ := by
  induction n generalizing r k cs ds with
  | zero =>
    cases h
    exact ⟨rfl, k, cs, rfl, hr, Nat.le_refl k⟩
  | succ n ih =>
    by_cases hnext : ∃ c, r.source.next = some (.plain c) ∧ p c = true
    · obtain ⟨c, hnext, hc⟩ := hnext
      rw [run_takeWhile_cons hnext hc] at h
      obtain ⟨⟨t, r₂⟩, htake, h⟩ := Fault.bind_eq_ok_iff.mp h
      obtain ⟨⟨more, r₃⟩, hwhile, h⟩ := Fault.bind_eq_ok_iff.mp h
      cases h
      obtain ⟨hall, k₁, rest, hrest, hr₁, hle⟩ := ih hwhile (standsAt_of_take htake)
      refine ⟨by simp [hc, hall], k₁, rest, ?_, hr₁, ?_⟩
      · rw [← hr.text, Source.text, hnext, hrest]
        rfl
      · have := place_le_after r
        rw [hr.place] at this
        omega
    · rw [run_takeWhile_stop fun c hc => by simpa using fun hp => hnext ⟨c, hc, hp⟩] at h
      cases h
      exact ⟨rfl, k, cs, rfl, hr, Nat.le_refl k⟩

theorem le_remaining {ds : List Char} (h : StandsAt r k (ds ++ c :: rest))
    (hall : ds.all isAsciiDigit = true) : ds.length ≤ r.source.remaining := by
  have hlength : ds.length ≤ r.source.rest.length := by
    cases ds with
    | nil => exact Nat.zero_le _
    | cons d more =>
      rw [List.all_cons, Bool.and_eq_true] at hall
      have hd : d ≠ '\\' := by
        rintro rfl
        exact absurd hall.1 (by decide)
      rw [(h.next_eq hd).2]
      simp
  exact Nat.le_trans hlength (Nat.le_add_right _ _)

theorem run_digits {ds : List Char} (hall : ds.all isAsciiDigit = true)
    (hstop : isAsciiDigit c = false) (hplain : c ≠ '\\') (h : StandsAt r k (ds ++ c :: rest)) :
    ∃ r₁ k₁, digitsAhead.run r = .ok (ds, r₁) ∧
      StandsAt r₁ k₁ (c :: rest) ∧ k ≤ k₁ :=
  run_takeWhile (by decide) hall hstop hplain h (le_remaining h hall)

theorem run_bind_of_ok {α β : Type} {f : Step α} {next : α → Step β} {a : α}
    (h : f.run r = .ok (a, r₁)) : (f >>= next).run r = (next a).run r₁ := by
  rw [StateT.run_bind, h]
  rfl

theorem run_countAhead_one {lo : List Char} (hlo : lo.all isAsciiDigit = true)
    (hrest : rest ≠ ['\\']) (h : StandsAt r k (lo ++ '\x7d' :: rest)) :
    ∃ r₁, countAhead.run r = .ok ((lo, lo, true), r₁) ∧ k ≤ r₁.source.place := by
  obtain ⟨r₁, k₁, hdigits, hr₁, hle⟩ := run_digits hlo (by decide) (by decide) h
  have hcomma : (Step.takeIf ',').run r₁ = .ok (false, r₁) :=
    run_takeIf_of_ne hr₁ (by decide) (by decide)
  obtain ⟨r₂, hclose, hr₂⟩ := run_takeIf_self hr₁ (by decide) hrest
  refine ⟨r₂, ?_, ?_⟩
  · rw [countAhead, run_bind_of_ok hdigits, run_bind_of_ok hcomma]
    simp only [Bool.false_eq_true, if_false, pure_bind]
    rw [run_bind_of_ok hclose]
    rfl
  · rw [hr₂.place]
    exact Nat.le_trans hle (hr₁.place ▸ place_le_after r₁)

theorem run_countAhead_two {lo hi : List Char} (hlo : lo.all isAsciiDigit = true)
    (hhi : hi.all isAsciiDigit = true) (hrest : rest ≠ ['\\'])
    (h : StandsAt r k (lo ++ ',' :: (hi ++ '\x7d' :: rest))) :
    ∃ r₁, countAhead.run r = .ok ((lo, hi, true), r₁) ∧ k ≤ r₁.source.place := by
  obtain ⟨r₁, k₁, hdigits, hr₁, hle₁⟩ := run_digits hlo (by decide) (by decide) h
  have hlone : hi ++ '\x7d' :: rest ≠ ['\\'] := by
    intro heq
    have hbrace : '\x7d' ∈ ['\\'] := heq ▸ List.mem_append_right _ (List.mem_cons_self ..)
    exact absurd hbrace (by decide)
  obtain ⟨r₂, hcomma, hr₂⟩ := run_takeIf_self hr₁ (by decide) hlone
  obtain ⟨r₃, k₃, hdigits', hr₃, hle₃⟩ := run_digits hhi (by decide) (by decide) hr₂
  obtain ⟨r₄, hclose, hr₄⟩ := run_takeIf_self hr₃ (by decide) hrest
  refine ⟨r₄, ?_, ?_⟩
  · rw [countAhead, run_bind_of_ok hdigits, run_bind_of_ok hcomma]
    simp only [if_true]
    rw [run_bind_of_ok hdigits', run_bind_of_ok hclose]
    rfl
  · have hplace₁ := hr₁.place ▸ place_le_after r₁
    have hplace₃ := hr₃.place ▸ place_le_after r₃
    rw [hr₄.place]
    omega

theorem countAhead_cases {lo hi : List Char} (h : countAhead.run r = .ok ((lo, hi, true), r₁))
    (hr : StandsAt r k cs) :
    k ≤ r₁.source.place ∧ lo.all isAsciiDigit = true ∧ hi.all isAsciiDigit = true ∧
      ∃ rest, rest ≠ ['\\'] ∧
        (hi = lo ∧ cs = lo ++ '\x7d' :: rest ∨ cs = lo ++ ',' :: (hi ++ '\x7d' :: rest)) := by
  unfold countAhead at h
  rw [StateT.run_bind] at h
  obtain ⟨⟨ds, r₂⟩, hdigits, h⟩ := Fault.bind_eq_ok_iff.mp h
  rw [StateT.run_bind] at h
  obtain ⟨⟨comma, r₃⟩, hcomma, h⟩ := Fault.bind_eq_ok_iff.mp h
  obtain ⟨hall, k₂, rest₂, rfl, hr₂, hle₂⟩ := takeWhile_cases hdigits hr
  have hplace₂ := hr₂.place ▸ place_le_after r₂
  rcases takeIf_cases hcomma hr₂ with ⟨rfl, rfl⟩ | ⟨rfl, rest₃, rfl, -, hr₃⟩
  · simp only [Bool.false_eq_true, if_false, pure_bind] at h
    rw [StateT.run_bind] at h
    obtain ⟨⟨closed, r₄⟩, hclose, h⟩ := Fault.bind_eq_ok_iff.mp h
    cases h
    rcases takeIf_cases hclose hr₂ with ⟨hnot, -⟩ | ⟨-, rest, rfl, hlone, hr₄⟩
    · cases hnot
    · refine ⟨?_, hall, hall, rest, hlone, Or.inl ⟨rfl, rfl⟩⟩
      rw [hr₄.place]
      omega
  · simp only [if_true] at h
    rw [StateT.run_bind] at h
    obtain ⟨⟨ds', r₄⟩, hdigits', h⟩ := Fault.bind_eq_ok_iff.mp h
    rw [StateT.run_bind] at h
    obtain ⟨⟨closed, r₅⟩, hclose, h⟩ := Fault.bind_eq_ok_iff.mp h
    cases h
    obtain ⟨hall', k₄, rest₄, rfl, hr₄, hle₄⟩ := takeWhile_cases hdigits' hr₃
    dsimp only at hle₄
    have hplace₄ := hr₄.place ▸ place_le_after r₄
    rcases takeIf_cases hclose hr₄ with ⟨hnot, -⟩ | ⟨-, rest, rfl, hlone, hr₅⟩
    · cases hnot
    · refine ⟨?_, hall, hall', rest, hlone, Or.inr rfl⟩
      rw [hr₅.place]
      dsimp only
      omega

theorem run_readRounds_brace (r : Reading) : (readRounds '\x7b').run r =
    if r.source.next = some (.plain '\x7d') then .ok (none, r)
    else do
      let ((lo, hi, closed), r₁) ← countAhead.run r
      if closed then (roundsBetween r.source.place lo hi).run r₁ else return (none, r) := by
  rw [readRounds_brace, run_peek_bind]
  split
  · rfl
  · rw [run_get_bind, StateT.run_bind]
    refine bind_congr fun ⟨⟨lo, hi, closed⟩, r₁⟩ => ?_
    cases closed <;> rfl

/-- A count that fails does so for its text. -/
theorem countFails_of_readRounds {e : Problem} (h : (readRounds '\x7b').run r = .error e)
    (he : e.OfCount) (hr : StandsAt r k cs) : CountFails k cs e := by
  rw [run_readRounds_brace] at h
  split at h
  · cases h
  rcases Fault.bind_eq_error_iff.mp h with hahead | ⟨⟨⟨lo, hi, closed⟩, r₁⟩, hahead, h⟩
  · exact absurd he (sparesCounts_countAhead r e hahead)
  · cases closed with
    | false => cases h
    | true =>
      simp only [if_true] at h
      rw [run_roundsBetween, hr.place] at h
      obtain ⟨hle, hlo, hhi, rest, hrest, hcs⟩ := countAhead_cases hahead hr
      cases hlarge : (excess? lo).or (excess? hi) with
      | some excess =>
        rw [hlarge] at h
        cases h
        rcases hcs with ⟨rfl, rfl⟩ | rfl
        · refine .one hlo hrest ?_
          rwa [Option.or_self] at hlarge
        · exact .two hlo hhi hrest hlarge
      | none =>
        simp only [hlarge] at h
        split at h
        · cases h
        next hsome =>
        split at h
        · next hlt =>
          cases h
          rcases hcs with ⟨rfl, rfl⟩ | rfl
          · exact absurd hlt (Nat.lt_irrefl _)
          · rw [Nat.sub_sub_self hle]
            exact .upsideDown hlo hhi hrest hsome hlarge hlt
        · cases h

theorem CountFails.head {e : Problem} (h : CountFails k cs e) :
    ∃ d more, cs = d :: more ∧ (isAsciiDigit d = true ∨ d = ',') := by
  have hcons : ∀ {lo : List Char} {d : Char} {more : List Char}, lo.all isAsciiDigit = true →
      (lo = [] → d = ',') →
        ∃ e rest, lo ++ d :: more = e :: rest ∧ (isAsciiDigit e = true ∨ e = ',') := by
    intro lo d more hlo hnil
    cases lo with
    | nil => exact ⟨d, more, rfl, Or.inr (hnil rfl)⟩
    | cons c lo =>
      rw [List.all_cons, Bool.and_eq_true] at hlo
      exact ⟨c, _, rfl, Or.inl hlo.1⟩
  cases h with
  | one hlo hrest hlarge =>
    refine hcons hlo ?_
    rintro rfl
    cases hlarge
  | two hlo => exact hcons hlo fun _ => rfl
  | upsideDown hlo => exact hcons hlo fun _ => rfl

/-- A text for which a count fails lets it fail. -/
theorem readRounds_of_countFails {e : Problem} (hr : StandsAt r k cs) (h : CountFails k cs e) :
    (readRounds '\x7b').run r = .error e := by
  have hopen : r.source.next ≠ some (.plain '\x7d') := by
    obtain ⟨d, more, rfl, hd⟩ := h.head
    rw [(hr.next_eq (by rintro rfl; revert hd; decide)).1]
    intro hbrace
    cases hbrace
    revert hd
    decide
  rw [run_readRounds_brace, if_neg hopen]
  cases h with
  | one hlo hrest hlarge =>
    obtain ⟨r₁, hahead, -⟩ := run_countAhead_one hlo hrest hr
    rw [hahead]
    change (roundsBetween _ _ _).run r₁ = _
    rw [run_roundsBetween, Option.or_self, hlarge]
  | two hlo hhi hrest hlarge =>
    obtain ⟨r₁, hahead, -⟩ := run_countAhead_two hlo hhi hrest hr
    rw [hahead]
    change (roundsBetween _ _ _).run r₁ = _
    rw [run_roundsBetween, hlarge]
  | upsideDown hlo hhi hrest hsome hsmall hlt =>
    obtain ⟨r₁, hahead, hle⟩ := run_countAhead_two hlo hhi hrest hr
    rw [hahead]
    change (roundsBetween _ _ _).run r₁ = _
    rw [run_roundsBetween, hsmall]
    simp only [hsome, if_false, hlt, if_true]
    rw [hr.place, Nat.sub_sub_self hle]

end

end PayloadCheck.Pattern
