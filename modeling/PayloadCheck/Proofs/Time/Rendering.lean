import PayloadCheck.Proofs.Time.Notations

/-!
# Notations that are filled in character by character

A notation is filled in by putting the fields of a moment for its directives and leaving all other
characters as they are (`Fills`). Its format takes up the text that comes out and tells what its
directives tell together (`Fills.told`), in whatever order these stand and however many blanks there
are between them.
-/

namespace PayloadCheck.Time

open PayloadCheck.Text PayloadCheck.Number

/-! ### Runs of blanks -/

theorem sameIgnoringCase_self (c : Char) : sameIgnoringCase c c = true := by
  have hself : ∀ n, (withSameCapital n).contains n = true := by
    intro n
    unfold withSameCapital
    split <;> simp
  unfold sameIgnoringCase
  split
  · exact hself _
  · exact beq_self_eq_true c

namespace Format

variable {f : Format} {c : Char} {cs : List Char} {taken : List (Directive × List Char) × List Char}

theorem candidates_blanks_cons (hc : isBlank c = true) (cs : List Char) :
    Item.blanks.candidates (c :: cs) = (Item.blanks.candidates cs).map (· + 1) ++ [1] := by
  simp only [Item.candidates, List.takeWhile_cons_of_pos hc, List.length_cons,
    List.range_succ_eq_map, List.map_cons, List.map_map, List.reverse_cons, List.map_reverse]

/-- One blank more in front of blanks makes no difference. -/
theorem capture?_blanks_cons (hc : isBlank c = true) (h : capture? (.blanks :: f) cs = some taken) :
    capture? (.blanks :: f) (c :: cs) = some taken := by
  rw [capture?] at h ⊢
  rw [candidates_blanks_cons hc, List.findSome?_append, List.findSome?_map]
  simp only [Function.comp_def, List.drop_succ_cons, h, Option.some_or]

/-! ### Texts that a format takes up -/

/-- A format takes up a text: each directive takes a field as the moment shows it, nothing is left
over, and blanks in front of the text are taken as such. -/
structure Takes (f : Format) (m : Moment) (cs : List Char) : Prop where
  shown : ∀ d ∈ f.directives, d ∈ shownDirectives
  captured : f.capture? cs = some (f.directives.map fun d => (d, m.shown d.letter), [])
  blank : cs.head?.any isBlank = true → ∃ g, f = .blanks :: g

namespace Takes

variable {m : Moment}

theorem nil : Takes [] m [] := ⟨nofun, rfl, nofun⟩

theorem literal (h : f.Takes m cs) (hc : isBlank c = false) :
    Takes (.literal c :: f) m (c :: cs) := by
  refine ⟨h.shown, capture?_literal (sameIgnoringCase_self c) h.captured, fun hblank => ?_⟩
  cases hc.symm.trans hblank

theorem blank_last (h : f.Takes m cs) (hc : isBlank c = true)
    (hcs : cs.head?.any isBlank = false) : Takes (.blanks :: f) m (c :: cs) :=
  ⟨h.shown, (capture?_blank hc hcs).trans h.captured, fun _ => ⟨f, rfl⟩⟩

theorem blank_more (h : f.Takes m cs) (hc : isBlank c = true)
    (hcs : cs.head?.any isBlank = true) : Takes f m (c :: cs) := by
  obtain ⟨g, rfl⟩ := h.blank hcs
  exact ⟨h.shown, capture?_blanks_cons hc h.captured, fun _ => ⟨g, rfl⟩⟩

theorem field (h : f.Takes m cs) (hm : m.isValid = true) {d : Directive}
    (hd : d ∈ shownDirectives) : Takes (.field d :: f) m (m.shown d.letter ++ cs) := by
  refine ⟨List.forall_mem_cons.mpr ⟨hd, h.shown⟩, ?_, fun hblank => ?_⟩
  · exact capture?_field (candidates_shown hm hd cs) h.captured
  · cases hblank.symm.trans (head?_shown hm hd cs)

end Takes

/-! ### The format of a notation -/

theorem ofChars?_mark (c : Char) (rest : List Char) : ofChars? ('%' :: c :: rest) =
    (ofLetter? c).bind fun items => (ofChars? rest).bind fun others => some (items ++ others) := rfl

/-- A character that begins no directive is taken as it is, or together with the blanks behind
it. -/
theorem ofChars?_cons (hc : c ≠ '%') (rest : List Char) : ofChars? (c :: rest) =
    if isBlank c then
      if rest.head?.any isBlank then ofChars? rest else (ofChars? rest).map (.blanks :: ·)
    else (ofChars? rest).map (.literal c :: ·) := by
  have hmark : ∀ d, c :: rest = '%' :: d → False := by
    rintro _ h
    cases h
    exact hc rfl
  rw [ofChars?.eq_def]
  split
  · next h => cases h
  · next h => exact (hmark _ h).elim
  · next h => exact (hmark _ h).elim
  · next h =>
    cases h
    cases rest <;> rfl

end Format

theorem ofLetter?_shown {d : Directive} (hd : d ∈ shownDirectives) :
    Format.ofLetter? d.letter = some [.field d] := by
  simp only [shownDirectives, List.mem_cons, List.not_mem_nil, or_false] at hd
  rcases hd with rfl | rfl | rfl | rfl | rfl | rfl | rfl | rfl <;> decide

/-! ### Filling in -/

/-- A notation is filled in: the directives that it names, in their order, and the text that comes
out. -/
inductive Fills (m : Moment) : List Char → List Directive → List Char → Prop
  | nil : Fills m [] [] []
  | plain {c : Char} {cs : List Char} {ds : List Directive} {ts : List Char} (unmarked : c ≠ '%')
      (rest : Fills m cs ds ts) : Fills m (c :: cs) ds (c :: ts)
  | field {d : Directive} {cs : List Char} {ds : List Directive} {ts : List Char}
      (shown : d ∈ shownDirectives) (rest : Fills m cs ds ts) :
      Fills m ('%' :: d.letter :: cs) (d :: ds) (m.shown d.letter ++ ts)

namespace Fills

variable {m : Moment} {cs ts : List Char} {ds : List Directive}

/-- The text begins with a blank where the notation does. -/
theorem head?_any_isBlank (h : m.isValid = true) (hfills : Fills m cs ds ts) :
    ts.head?.any isBlank = cs.head?.any isBlank := by
  cases hfills with
  | nil => rfl
  | plain => rfl
  | field hd => exact head?_shown h hd _

/-- A text that a notation is filled in with is taken up by the format of the notation. -/
theorem exists_takes (h : m.isValid = true) (hfills : Fills m cs ds ts) :
    ∃ f : Format, Format.ofChars? cs = some f ∧ f.directives = ds ∧ f.Takes m ts := by
  induction hfills with
  | nil => exact ⟨[], rfl, rfl, .nil⟩
  | @plain c cs ds ts hc hrest ih =>
    obtain ⟨f, hf, hnamed, htakes⟩ := ih
    have hhead := hrest.head?_any_isBlank h
    cases hblank : isBlank c with
    | false =>
      refine ⟨.literal c :: f, ?_, hnamed, htakes.literal hblank⟩
      simp [Format.ofChars?_cons hc, hf, hblank]
    | true =>
      -- of a run of blanks all but the last add nothing to the format
      cases hnext : cs.head?.any isBlank with
      | false =>
        refine ⟨.blanks :: f, ?_, hnamed, htakes.blank_last hblank (hhead.trans hnext)⟩
        simp [Format.ofChars?_cons hc, hf, hblank, hnext]
      | true =>
        refine ⟨f, ?_, hnamed, htakes.blank_more hblank (hhead.trans hnext)⟩
        simp [Format.ofChars?_cons hc, hf, hblank, hnext]
  | @field d cs ds ts hd hrest ih =>
    obtain ⟨f, hf, hnamed, htakes⟩ := ih
    refine ⟨.field d :: f, ?_, ?_, htakes.field h hd⟩
    · rw [Format.ofChars?_mark, ofLetter?_shown hd, hf]
      rfl
    · rw [← hnamed]
      rfl

/-- The format of a notation that is filled in tells what its directives tell together. -/
theorem told (h : m.isValid = true) (hfills : Fills m cs ds ts) :
    ∃ f : Format, Format.ofChars? cs = some f ∧ f.directives = ds ∧
      f.told ts = (ds.foldl m.tell {}).moment? := by
  obtain ⟨f, hf, hnamed, htakes⟩ := hfills.exists_takes h
  refine ⟨f, hf, hnamed, ?_⟩
  rw [Format.told, htakes.captured, ← hnamed]
  simp [ofList?_shown h htakes.shown]

end Fills

/-- What directives tell together: a field is as the moment has it iff one of them shows it. -/
theorem foldl_tell (m : Moment) (ds : List Directive) (f : Fields) : ds.foldl m.tell f =
    { f with
      year := if .year ∈ ds then some m.date.year else f.year
      month := if .month ∈ ds ∨ .monthName ∈ ds ∨ .monthShort ∈ ds then m.date.month else f.month
      day := if .day ∈ ds then m.date.day else f.day
      hour := if .hour ∈ ds then m.hour else f.hour
      minute := if .minute ∈ ds then m.minute else f.minute
      second := if .second ∈ ds then m.second else f.second } := by
  induction ds generalizing f with
  | nil => simp
  | cons d rest ih =>
    rw [List.foldl_cons, ih]
    cases d <;>
      simp only [Moment.tell, List.mem_cons, reduceCtorEq, false_or, true_or, or_true, if_true,
        ite_self]

end PayloadCheck.Time
