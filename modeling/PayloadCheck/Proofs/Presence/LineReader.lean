import PayloadCheck.FieldMap
import PayloadCheck.Text.Blank

/-!
# Reading a line of settings

A server library reads a line of settings as pairs of a keyword and a value with an equals sign
between them. Blanks stand between pairs and may stand around the sign. A value ends at a blank, or
stands between single quotes; in both a backslash takes the next character as it is. Of two pairs
under one keyword the last one counts.

A reader goes along the line character by character (`LineReader.step`). What it has gathered is
never longer than what it has read (`spent_le_of_foldlM`); it is exactly as long as long as nothing
was wasted on a quote, a backslash or a second blank, and then the text of a value is the value.
-/

namespace PayloadCheck.Presence

open PayloadCheck.Text

/-- Where in a line a reader stands, with the keyword and the value gathered so far. -/
inductive Place where
  | between
  | keyword (k : List Char)
  | afterKeyword (k : List Char)
  | beforeValue (k : List Char)
  | bare (k v : List Char)
  | bareEscape (k v : List Char)
  | quoted (k v : List Char)
  | quotedEscape (k v : List Char)

/-- A reader of a line: its place, and the pairs before it. -/
structure LineReader where
  place : Place
  pairs : List (String × String)

namespace LineReader

/-- A reader at the beginning of a line. -/
def start : LineReader := ⟨.between, []⟩

/-- The reader after a pair. -/
def close (r : LineReader) (k v : List Char) : LineReader :=
  ⟨.between, r.pairs ++ [(String.ofList k, String.ofList v)]⟩

/-- Reads one character. A keyword has to be followed by an equals sign. -/
def step (r : LineReader) (c : Char) : Option LineReader :=
  match r.place with
  | .between =>
    if isAsciiBlank c then some r
    else if c = '=' then some { r with place := .beforeValue [] }
    else some { r with place := .keyword [c] }
  | .keyword k =>
    if c = '=' then some { r with place := .beforeValue k }
    else if isAsciiBlank c then some { r with place := .afterKeyword k }
    else some { r with place := .keyword (k ++ [c]) }
  | .afterKeyword k =>
    if isAsciiBlank c then some r
    else if c = '=' then some { r with place := .beforeValue k }
    else none
  | .beforeValue k =>
    if isAsciiBlank c then some r
    else if c = '\'' then some { r with place := .quoted k [] }
    else if c = '\\' then some { r with place := .bareEscape k [] }
    else some { r with place := .bare k [c] }
  | .bare k v =>
    if isAsciiBlank c then some (r.close k v)
    else if c = '\\' then some { r with place := .bareEscape k v }
    else some { r with place := .bare k (v ++ [c]) }
  | .bareEscape k v => some { r with place := .bare k (v ++ [c]) }
  | .quoted k v =>
    if c = '\'' then some (r.close k v)
    else if c = '\\' then some { r with place := .quotedEscape k v }
    else some { r with place := .quoted k (v ++ [c]) }
  | .quotedEscape k v => some { r with place := .quoted k (v ++ [c]) }

/-- The pairs at the end of a line. A keyword without a sign and an open quote are refused. -/
def finish (r : LineReader) : Option (List (String × String)) :=
  match r.place with
  | .between => some r.pairs
  | .beforeValue k => some (r.close k []).pairs
  | .bare k v | .bareEscape k v => some (r.close k v).pairs
  | .keyword _ | .afterKeyword _ | .quoted _ _ | .quotedEscape _ _ => none

end LineReader

/-- The settings in a line. -/
def readLine (line : String) : Option (FieldMap String) := do
  let r ← line.toList.foldlM LineReader.step .start
  return FieldMap.ofList (← r.finish)

/-! ### What a reader has gathered -/

/-- The least length of the text of pairs: keyword, sign, value and one blank for each. -/
def pairsLength : List (String × String) → Nat
  | [] => 0
  | (k, v) :: rest => k.length + v.length + 2 + pairsLength rest

@[simp] theorem pairsLength_nil : pairsLength [] = 0 := rfl

@[simp] theorem pairsLength_cons (k v : String) (rest : List (String × String)) :
    pairsLength ((k, v) :: rest) = k.length + v.length + 2 + pairsLength rest := rfl

@[simp] theorem pairsLength_append (ps qs : List (String × String)) :
    pairsLength (ps ++ qs) = pairsLength ps + pairsLength qs := by
  induction ps with
  | nil => simp
  | cons p rest ih => simp [pairsLength, ih, Nat.add_assoc]

/-- The least length of the text of what is gathered at a place. -/
def Place.spent : Place → Nat
  | between => 0
  | keyword k | afterKeyword k => k.length
  | beforeValue k => k.length + 1
  | bare k v => k.length + v.length + 1
  | bareEscape k v | quoted k v => k.length + v.length + 2
  | quotedEscape k v => k.length + v.length + 3

namespace LineReader

variable {r m : LineReader} {c : Char} {cs rest : List Char} {k v : List Char}
  {pairs : List (String × String)}

/-- The least length of the text of what a reader has gathered. -/
def spent (r : LineReader) : Nat := pairsLength r.pairs + r.place.spent

@[simp] theorem spent_mk (p : Place) (pairs : List (String × String)) :
    spent ⟨p, pairs⟩ = pairsLength pairs + p.spent := rfl

@[simp] theorem spent_close :
    (r.close k v).spent = pairsLength r.pairs + (k.length + v.length + 2) := by
  simp [close, Place.spent]

/-- In a step a reader goes to another place or closes a pair, and gathers one character at most. -/
theorem step_cases (h : r.step c = some m) :
    (∃ p : Place, m = { r with place := p } ∧ p.spent ≤ r.place.spent + 1) ∨
      ∃ k v, m = r.close k v ∧ k.length + v.length + 1 ≤ r.place.spent := by
  obtain ⟨place, pairs⟩ := r
  cases place with
  | bare k v | quoted k v =>
    simp only [step] at h
    split at h
    · cases h
      exact Or.inr ⟨k, v, rfl, by simp [Place.spent]⟩
    · split at h <;> cases h <;> exact Or.inl ⟨_, rfl, by simp [Place.spent]; try omega⟩
  | _ =>
    simp only [step] at h
    repeat' split at h
    all_goals cases h
    all_goals exact Or.inl ⟨_, rfl, by simp [Place.spent]; try omega⟩

theorem step_spent (h : r.step c = some m) : m.spent ≤ r.spent + 1 := by
  rcases step_cases h with ⟨p, rfl, hp⟩ | ⟨k, v, rfl, hkv⟩
  · simp only [spent]
    omega
  · rw [spent_close, spent]
    omega

theorem step_pairs (h : r.step c = some m) : r.pairs <+: m.pairs := by
  rcases step_cases h with ⟨p, rfl, -⟩ | ⟨k, v, rfl, -⟩
  · exact List.prefix_rfl
  · exact List.prefix_append _ _

theorem foldlM_append_of {q : LineReader} (h : cs.foldlM step r = some q) (rest : List Char) :
    (cs ++ rest).foldlM step r = rest.foldlM step q := by
  rw [List.foldlM_append, h]
  rfl

theorem foldlM_cons_of {q : LineReader} (h : r.step c = some q) (rest : List Char) :
    (c :: rest).foldlM step r = rest.foldlM step q := by
  rw [List.foldlM_cons, h]
  rfl

/-- Along a line a reader gathers no more than it reads. -/
theorem spent_le_of_foldlM (h : cs.foldlM step r = some m) : m.spent ≤ r.spent + cs.length := by
  induction cs generalizing r with
  | nil =>
    cases h
    exact Nat.le_refl _
  | cons c rest ih =>
    obtain ⟨q, hq, hrest⟩ := Option.bind_eq_some_iff.mp h
    have hstep := step_spent hq
    have hih := ih hrest
    rw [List.length_cons]
    omega

theorem pairs_of_foldlM (h : cs.foldlM step r = some m) : r.pairs <+: m.pairs := by
  induction cs generalizing r with
  | nil =>
    cases h
    exact List.prefix_rfl
  | cons c rest ih =>
    obtain ⟨q, hq, hrest⟩ := Option.bind_eq_some_iff.mp h
    exact (step_pairs hq).trans (ih hrest)

/-- What is handed over at the end of a line is at most one blank more than what was gathered. -/
theorem pairsLength_finish (h : r.finish = some pairs) : pairsLength pairs ≤ r.spent + 1 := by
  obtain ⟨place, done⟩ := r
  cases place <;> cases h <;> simp [close, spent, Place.spent] <;> omega

/-! ### Reading without waste -/

/-- A reader gathers every character that it reads. -/
structure Tight (r : LineReader) (cs : List Char) (m : LineReader) : Prop where
  run : cs.foldlM step r = some m
  spent_eq : m.spent = r.spent + cs.length

/-- A reader that wastes nothing on a line wastes nothing on the parts of it. -/
theorem Tight.after {q : LineReader} (h : Tight r (cs ++ rest) m) (hq : cs.foldlM step r = some q) :
    q.spent = r.spent + cs.length ∧ Tight q rest m := by
  obtain ⟨hrun, hspent⟩ := h
  rw [foldlM_append_of hq] at hrun
  have hfirst := spent_le_of_foldlM hq
  have hrest := spent_le_of_foldlM hrun
  rw [List.length_append] at hspent
  exact ⟨by omega, hrun, by omega⟩

theorem Tight.next {q : LineReader} (h : Tight r (c :: rest) m) (hq : r.step c = some q) :
    q.spent = r.spent + 1 ∧ Tight q rest m :=
  Tight.after h (foldlM_cons_of hq [])

/-- A reader that wastes nothing does not come out of quotes. -/
theorem Tight.pairs_of_quoted (h : Tight ⟨.quoted k v, pairs⟩ cs m) : m.pairs = pairs := by
  induction cs generalizing v with
  | nil =>
    cases h.run
    rfl
  | cons c rest ih =>
    by_cases hquote : c = '\''
    · have hclosed := (h.next (q := close ⟨.quoted k v, pairs⟩ k v) (by simp [step, hquote])).1
      simp [Place.spent] at hclosed
    by_cases hescape : c = '\\'
    · have hescaped := (h.next (q := ⟨.quotedEscape k v, pairs⟩) (by simp [step, hescape])).2
      cases rest with
      | nil =>
        cases hescaped.run
        rfl
      | cons d more =>
        have htaken := (hescaped.next (q := ⟨.quoted k (v ++ [d]), pairs⟩) rfl).1
        simp [Place.spent] at htaken
        omega
    · exact ih (h.next (q := ⟨.quoted k (v ++ [c]), pairs⟩) (by simp [step, hquote, hescape])).2

/-! ### Bare values -/

/-- A character that a reader takes into a bare value as it is. -/
def IsBareChar (c : Char) : Prop := isAsciiBlank c = false ∧ c ≠ '\\'

instance (c : Char) : Decidable (IsBareChar c) := inferInstanceAs (Decidable (_ ∧ _))

theorem foldlM_bare (h : ∀ c ∈ cs, IsBareChar c) :
    cs.foldlM step ⟨.bare k v, pairs⟩ = some ⟨.bare k (v ++ cs), pairs⟩ := by
  induction cs generalizing v with
  | nil => simp
  | cons c rest ih =>
    obtain ⟨⟨hblank, hescape⟩, hrest⟩ := List.forall_mem_cons.mp h
    have hstep : step ⟨.bare k v, pairs⟩ c = some ⟨.bare k (v ++ [c]), pairs⟩ := by
      simp [step, hblank, hescape]
    rw [foldlM_cons_of hstep, ih hrest, ← List.append_cons]

/-- A reader that wastes nothing does not go on after a backslash in a bare value. -/
theorem Tight.absurd_escape {P : Prop} (h : Tight ⟨.bareEscape k v, pairs⟩ cs m) (hcs : cs ≠ []) :
    P := by
  cases cs with
  | nil => exact absurd rfl hcs
  | cons c rest =>
    have htaken := (h.next (q := ⟨.bare k (v ++ [c]), pairs⟩) rfl).1
    simp [Place.spent] at htaken
    omega

/-- Up to a blank, a reader that wastes nothing takes bare characters if it takes all of them. -/
theorem Tight.isBareChar (h : Tight ⟨.bare k v, pairs⟩ (cs ++ ' ' :: rest) m)
    (hm : pairs ++ [(String.ofList k, String.ofList (v ++ cs))] <+: m.pairs) :
    ∀ c ∈ cs, IsBareChar c := by
  induction cs generalizing v with
  | nil => simp
  | cons c cs ih =>
    rw [List.cons_append] at h
    by_cases hblank : isAsciiBlank c = true
    · have hclosed := (h.next (q := close ⟨.bare k v, pairs⟩ k v) (by simp [step, hblank])).2
      have hsame := List.prefix_of_prefix_length_le (pairs_of_foldlM hclosed.run) hm
        (by simp [close])
      have hlength := congrArg pairsLength (hsame.eq_of_length (by simp [close]))
      simp [close] at hlength
    by_cases hescape : c = '\\'
    · have hescaped := (h.next (q := ⟨.bareEscape k v, pairs⟩)
        (by simp only [step, if_neg hblank, if_pos hescape])).2
      exact hescaped.absurd_escape (by simp)
    · have htaken := (h.next (q := ⟨.bare k (v ++ [c]), pairs⟩) (by simp [step, hblank, hescape])).2
      have hrest := ih htaken (by simpa using hm)
      exact List.forall_mem_cons.mpr ⟨⟨by simpa using hblank, hescape⟩, hrest⟩

/-- A text that stands for itself as a bare value: it is not empty, does not begin with a quote, and
holds no blank and no backslash. -/
def IsBare (cs : List Char) : Prop := cs ≠ [] ∧ cs.head? ≠ some '\'' ∧ ∀ c ∈ cs, IsBareChar c

instance (cs : List Char) : Decidable (IsBare cs) :=
  have : Decidable (∀ c ∈ cs, IsBareChar c) := List.decidableBAll _ _
  inferInstanceAs (Decidable (_ ∧ _ ∧ _))

theorem foldlM_value (h : IsBare cs) :
    (cs ++ [' ']).foldlM step ⟨.beforeValue k, pairs⟩ =
      some ⟨.between, pairs ++ [(String.ofList k, String.ofList cs)]⟩ := by
  obtain ⟨hne, hquote, hchars⟩ := h
  cases cs with
  | nil => exact absurd rfl hne
  | cons c rest =>
    obtain ⟨⟨hblank, hescape⟩, hrest⟩ := List.forall_mem_cons.mp hchars
    have hfirst : step ⟨.beforeValue k, pairs⟩ c = some ⟨.bare k [c], pairs⟩ := by
      have hc : c ≠ '\'' := by simpa using hquote
      simp [step, hblank, hc, hescape]
    rw [List.cons_append, foldlM_cons_of hfirst, foldlM_append_of (foldlM_bare hrest)]
    rfl

/-- A value that a reader without waste reads as it stands is bare. -/
theorem Tight.isBare (h : Tight ⟨.beforeValue k, pairs⟩ (cs ++ ' ' :: rest) m)
    (hm : pairs ++ [(String.ofList k, String.ofList cs)] <+: m.pairs) : IsBare cs := by
  cases cs with
  | nil =>
    have hskipped := (h.next (q := ⟨.beforeValue k, pairs⟩) rfl).1
    simp at hskipped
  | cons c cs =>
    rw [List.cons_append] at h
    by_cases hblank : isAsciiBlank c = true
    · have hskipped := (h.next (q := ⟨.beforeValue k, pairs⟩)
        (by simp only [step, if_pos hblank])).1
      simp at hskipped
    by_cases hquote : c = '\''
    · have hopened := (h.next (q := ⟨.quoted k [], pairs⟩)
        (by simp only [step, if_neg hblank, if_pos hquote])).2
      have hlength := hm.length_le
      rw [hopened.pairs_of_quoted, List.length_append, List.length_singleton] at hlength
      omega
    by_cases hescape : c = '\\'
    · have hescaped := (h.next (q := ⟨.bareEscape k [], pairs⟩)
        (by simp only [step, if_neg hblank, if_neg hquote, if_pos hescape])).2
      exact hescaped.absurd_escape (by simp)
    · have htaken := (h.next (q := ⟨.bare k [c], pairs⟩)
        (by simp only [step, if_neg hblank, if_neg hquote, if_neg hescape])).2
      have hrest := htaken.isBareChar (by simpa using hm)
      exact ⟨by simp, by simpa using hquote,
        List.forall_mem_cons.mpr ⟨⟨by simpa using hblank, hescape⟩, hrest⟩⟩

/-- A text that a reader takes for a keyword. -/
def IsKeyword (cs : List Char) : Prop := cs ≠ [] ∧ ∀ c ∈ cs, c ≠ '=' ∧ isAsciiBlank c = false

theorem foldlM_keyword (h : IsKeyword cs) :
    (cs ++ ['=']).foldlM step ⟨.between, pairs⟩ = some ⟨.beforeValue cs, pairs⟩ := by
  have hmore {rest : List Char} (hrest : ∀ c ∈ rest, c ≠ '=' ∧ isAsciiBlank c = false) :
      ∀ k, (rest ++ ['=']).foldlM step ⟨.keyword k, pairs⟩ =
        some ⟨.beforeValue (k ++ rest), pairs⟩ := by
    induction rest with
    | nil => simp [step]
    | cons c rest ih =>
      obtain ⟨⟨hsign, hblank⟩, hrest⟩ := List.forall_mem_cons.mp hrest
      intro k
      have hstep : step ⟨.keyword k, pairs⟩ c = some ⟨.keyword (k ++ [c]), pairs⟩ := by
        simp [step, hsign, hblank]
      rw [List.cons_append, foldlM_cons_of hstep, ih hrest, ← List.append_cons]
  obtain ⟨hne, hchars⟩ := h
  cases cs with
  | nil => exact absurd rfl hne
  | cons c rest =>
    obtain ⟨⟨hsign, hblank⟩, hrest⟩ := List.forall_mem_cons.mp hchars
    have hfirst : step ⟨.between, pairs⟩ c = some ⟨.keyword [c], pairs⟩ := by
      simp [step, hsign, hblank]
    rw [List.cons_append, foldlM_cons_of hfirst, hmore hrest]
    rfl

end LineReader

end PayloadCheck.Presence
