/-!
# Cutting a text into pieces

The pieces between separators, and putting pieces together again. Main statements: joining the
pieces with the separator gives the text back (`join_pieces`), and a join is cut into its pieces
(`pieces_join`).
-/

namespace PayloadCheck.Text

/-- The pieces of `cs` between the characters that satisfy `p`; there is always at least one. -/
def piecesBy (p : Char → Bool) : List Char → List (List Char)
  | [] => [[]]
  | c :: rest =>
    if p c then [] :: piecesBy p rest
    else match piecesBy p rest with
      | [] => [[c]]
      | first :: others => (c :: first) :: others

/-- The pieces of `cs` between the occurrences of `sep`. -/
def pieces (sep : Char) (cs : List Char) : List (List Char) := piecesBy (· == sep) cs

/-- The pieces of a text between the occurrences of `sep`. -/
def split (sep : Char) (s : String) : List String :=
  (pieces sep s.toList).map String.ofList

/-- Pieces put together with `sep` between them. -/
def join (sep : List Char) : List (List Char) → List Char
  | [] => []
  | [p] => p
  | p :: q :: rest => p ++ sep ++ join sep (q :: rest)

/-- Texts put together with `sep` between them. -/
def joinTexts (sep : String) (texts : List String) : String :=
  String.ofList (join sep.toList (texts.map String.toList))

/-- The parts of `cs` before and after the first `sep`, if there is one. -/
def cut? (sep : Char) : List Char → Option (List Char × List Char)
  | [] => none
  | c :: rest =>
    if c = sep then some ([], rest)
    else (cut? sep rest).map fun (before, after) => (c :: before, after)

theorem piecesBy_ne_nil (p : Char → Bool) (cs : List Char) : piecesBy p cs ≠ [] := by
  cases cs with
  | nil => simp [piecesBy]
  | cons c rest =>
    simp only [piecesBy]
    split
    · simp
    · split <;> simp

theorem pieces_ne_nil (sep : Char) (cs : List Char) : pieces sep cs ≠ [] :=
  piecesBy_ne_nil _ cs

theorem join_pieces (sep : Char) (cs : List Char) : join [sep] (pieces sep cs) = cs := by
  unfold pieces
  induction cs with
  | nil => rfl
  | cons c rest ih =>
    simp only [piecesBy]
    cases h : piecesBy (· == sep) rest with
    | nil => exact absurd h (piecesBy_ne_nil _ rest)
    | cons first others =>
      rw [h] at ih
      by_cases hc : c = sep
      · subst hc
        simp [join, ih]
      · simp only [beq_iff_eq, hc, if_false]
        cases others with
        | nil => simpa [join] using ih
        | cons second more => simpa [join] using ih

theorem pieces_of_not_mem {sep : Char} {cs : List Char} (h : sep ∉ cs) : pieces sep cs = [cs] := by
  unfold pieces
  induction cs with
  | nil => rfl
  | cons c rest ih =>
    simp only [List.mem_cons, not_or] at h
    simp [piecesBy, Ne.symm h.1, ih h.2]

/-- Two texts with a separator between them have the pieces of both. -/
theorem pieces_append (sep : Char) (before after : List Char) :
    pieces sep (before ++ sep :: after) = pieces sep before ++ pieces sep after := by
  unfold pieces
  induction before with
  | nil => simp [piecesBy]
  | cons c more ih =>
    by_cases hc : c = sep
    · simp [piecesBy, hc, ih]
    · cases h : piecesBy (· == sep) more with
      | nil => exact absurd h (piecesBy_ne_nil _ more)
      | cons first others => simp [piecesBy, hc, ih, h]

theorem pieces_append_sep {sep : Char} {before : List Char} (h : sep ∉ before)
    (rest : List Char) : pieces sep (before ++ sep :: rest) = before :: pieces sep rest := by
  rw [pieces_append, pieces_of_not_mem h, List.singleton_append]

theorem pieces_cons_self (sep : Char) (rest : List Char) :
    pieces sep (sep :: rest) = [] :: pieces sep rest :=
  pieces_append_sep (List.not_mem_nil) rest

/-- Characters before the first separator belong to the first piece. -/
theorem pieces_append_of_not_mem {sep : Char} {before rest first : List Char}
    {others : List (List Char)} (h : sep ∉ before) (hrest : pieces sep rest = first :: others) :
    pieces sep (before ++ rest) = (before ++ first) :: others := by
  induction before with
  | nil => exact hrest
  | cons c more ih =>
    rw [List.mem_cons, not_or] at h
    have hmore : piecesBy (· == sep) (more ++ rest) = (more ++ first) :: others := ih h.2
    simp [pieces, piecesBy, Ne.symm h.1, hmore]

theorem head?_of_pieces {sep c : Char} {cs first : List Char} {others : List (List Char)}
    (h : pieces sep cs = first :: others) (hc : first.head? = some c) : cs.head? = some c := by
  rw [← join_pieces sep cs, h]
  cases others with
  | nil => exact hc
  | cons second more => simp [join, List.head?_append, hc]

theorem of_mem_piecesBy {p : Char → Bool} {cs piece : List Char} (h : piece ∈ piecesBy p cs) :
    ∀ c ∈ piece, p c = false := by
  induction cs generalizing piece with
  | nil =>
    obtain rfl : piece = [] := by simpa [piecesBy] using h
    simp
  | cons c rest ih =>
    cases hpieces : piecesBy p rest with
    | nil => exact absurd hpieces (piecesBy_ne_nil p rest)
    | cons first others =>
      rw [hpieces] at ih
      by_cases hc : p c
      · simp only [piecesBy, hc, if_true, hpieces, List.mem_cons] at h
        rcases h with rfl | h
        · simp
        · exact ih (List.mem_cons.mpr h)
      · simp only [piecesBy, hc, Bool.false_eq_true, if_false, hpieces, List.mem_cons] at h
        rcases h with rfl | h
        · intro d hd
          rcases List.mem_cons.mp hd with rfl | hd
          · simpa using hc
          · exact ih (List.mem_cons_self ..) d hd
        · exact ih (List.mem_cons_of_mem _ h)

/-- Put together, the pieces are what is left of a text without the separators. -/
theorem flatten_piecesBy (p : Char → Bool) (cs : List Char) :
    (piecesBy p cs).flatten = cs.filter fun c => !p c := by
  induction cs with
  | nil => rfl
  | cons c rest ih =>
    cases hc : p c with
    | true => simp [piecesBy, hc, ih]
    | false =>
      rw [List.filter_cons_of_pos (by simp [hc]), ← ih]
      -- a character that is kept goes to the first piece of the rest, and there always is one
      cases hpieces : piecesBy p rest with
      | nil => exact absurd hpieces (piecesBy_ne_nil p rest)
      | cons first others => simp [piecesBy, hc, hpieces]

/-- Pieces without the separator are what their join is cut into; no pieces at all are cut into an
empty one. -/
theorem pieces_join {sep : Char} {ps : List (List Char)} (h : ∀ piece ∈ ps, sep ∉ piece) :
    pieces sep (join [sep] ps) = if ps = [] then [[]] else ps := by
  match ps with
  | [] => rfl
  | [piece] => exact pieces_of_not_mem (h piece (List.mem_singleton_self piece))
  | first :: second :: rest =>
    obtain ⟨hfirst, hrest⟩ := List.forall_mem_cons.mp h
    rw [join, List.append_assoc, List.singleton_append, pieces_append_sep hfirst,
      pieces_join hrest]
    simp

theorem cut?_eq_some {sep : Char} {cs before after : List Char}
    (h : cut? sep cs = some (before, after)) : cs = before ++ sep :: after ∧ sep ∉ before := by
  induction cs generalizing before with
  | nil => simp [cut?] at h
  | cons c rest ih =>
    by_cases hc : c = sep
    · simp [cut?, hc] at h
      simp [h, hc]
    · simp only [cut?, hc, if_false, Option.map_eq_some_iff, Prod.exists, Prod.mk.injEq] at h
      obtain ⟨b, a, hba, rfl, rfl⟩ := h
      obtain ⟨rfl, hn⟩ := ih hba
      exact ⟨rfl, by simp [hn, Ne.symm hc]⟩

theorem cut?_of_not_mem {sep : Char} {cs : List Char} (h : sep ∉ cs) : cut? sep cs = none := by
  induction cs with
  | nil => rfl
  | cons c rest ih =>
    simp only [List.mem_cons, not_or] at h
    simp [cut?, Ne.symm h.1, ih h.2]

theorem cut?_append_sep {sep : Char} {before : List Char} (h : sep ∉ before)
    (after : List Char) : cut? sep (before ++ sep :: after) = some (before, after) := by
  induction before with
  | nil => simp [cut?]
  | cons c rest ih =>
    simp only [List.mem_cons, not_or] at h
    simp [cut?, Ne.symm h.1, ih h.2]

/-- The parts around the last separator are those around the first one of the reversed text. -/
theorem cut?_reverse {sep : Char} {before after : List Char} (h : sep ∉ after) :
    cut? sep (before ++ sep :: after).reverse = some (after.reverse, before.reverse) := by
  rw [List.reverse_append, List.reverse_cons, List.append_assoc, List.singleton_append]
  exact cut?_append_sep (fun hmem => h (List.mem_reverse.mp hmem)) _

end PayloadCheck.Text
