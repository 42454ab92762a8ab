import PayloadCheck.Proofs.Text.Casing

/-!
# Identifiers

The identifier of a name can be read along the name: gaps are left out, and the character behind one
becomes a capital (`identifierChars_eq_gather`). So a name has an identifier iff it holds anything
but gaps (`identifier_ne_iff`). The readable name of an identifier puts an underscore before every
capital but the first and writes all letters small; its words begin where the capitals stood, and
it has the identifier that it was made from (`identifier_readable`).
-/

namespace PayloadCheck.Rule

open PayloadCheck.Text

variable {cs : List Char}

/-! ## Identifiers in one pass -/

/-- The identifier of a name, gathered along the name: a character becomes a capital where a word
starts. -/
def gather (start : Bool) : List Char → List Char
  | [] => []
  | c :: rest =>
    if isWordGap c then gather true rest
    else (if start then upperChars c else [c]) ++ gather false rest

theorem gather_of_pieces {first : List Char} {others : List (List Char)}
    (h : piecesBy isWordGap cs = first :: others) :
    gather true cs = ((first :: others).filter fun w => !w.isEmpty).flatMap capitalize ∧
      gather false cs = first ++ (others.filter fun w => !w.isEmpty).flatMap capitalize := by
  induction cs generalizing first others with
  | nil =>
    cases h
    exact ⟨rfl, rfl⟩
  | cons c rest ih =>
    cases hpieces : piecesBy isWordGap rest with
    | nil => exact absurd hpieces (piecesBy_ne_nil _ rest)
    | cons next more =>
      obtain ⟨htrue, hfalse⟩ := ih hpieces
      by_cases hgap : isWordGap c = true
      · rw [piecesBy, if_pos hgap, hpieces] at h
        cases h
        rw [gather, if_pos hgap, gather, if_pos hgap, htrue]
        exact ⟨rfl, rfl⟩
      · simp only [piecesBy, hgap, hpieces, Bool.false_eq_true, if_false] at h
        cases h
        rw [gather, if_neg hgap, gather, if_neg hgap, hfalse]
        simp [capitalize]

theorem identifierChars_eq_gather (cs : List Char) : identifierChars cs = gather true cs := by
  cases hpieces : piecesBy isWordGap cs with
  | nil => exact absurd hpieces (piecesBy_ne_nil _ cs)
  | cons first others => rw [identifierChars, words, hpieces, (gather_of_pieces hpieces).1]

theorem gather_of_plain (h : ∀ c ∈ cs, isWordGap c = false) : gather false cs = cs := by
  induction cs with
  | nil => rfl
  | cons c rest ih =>
    obtain ⟨hc, hrest⟩ := List.forall_mem_cons.mp h
    simp [gather, hc, ih hrest]

theorem gather_of_gaps {start : Bool} (h : ∀ c ∈ cs, isWordGap c = true) :
    gather start cs = [] := by
  induction cs generalizing start with
  | nil => rfl
  | cons c rest ih =>
    obtain ⟨hc, hrest⟩ := List.forall_mem_cons.mp h
    rw [gather, if_pos hc, ih hrest]

theorem gather_ne_nil {start : Bool} {c : Char} (hc : c ∈ cs) (hgap : isWordGap c = false) :
    gather start cs ≠ [] := by
  have hupper : ∀ {c : Char}, isWordGap c = false → upperChars c ≠ [] := by
    intro c hgap
    by_cases hascii : c.toNat < 128
    · rw [upperChars_eq hascii]
      exact List.cons_ne_nil _ _
    · exact (upperChars_avoids hascii hgap).1
  induction cs generalizing start with
  | nil => cases hc
  | cons d rest ih =>
    rw [gather]
    cases hd : isWordGap d with
    | true =>
      have hrest : c ∈ rest := by
        rcases List.mem_cons.mp hc with rfl | hrest
        · rw [hd] at hgap
          cases hgap
        · exact hrest
      exact ih hrest
    | false =>
      rw [if_neg Bool.false_ne_true]
      cases start with
      | true => exact fun h => hupper hd (List.append_eq_nil_iff.mp h).1
      | false => exact List.cons_ne_nil _ _

/-- A name has an identifier iff something in it is no gap. -/
theorem identifier_ne_iff (name : String) :
    identifier name ≠ "" ↔ ∃ c ∈ name.toList, isWordGap c = false := by
  have hempty : identifier name ≠ "" ↔ gather true name.toList ≠ [] := by
    rw [identifier, identifierChars_eq_gather, Ne, String.ofList_eq_empty_iff]
  rw [hempty]
  constructor
  · intro hne
    by_cases hgaps : ∀ c ∈ name.toList, isWordGap c = true
    · exact absurd (gather_of_gaps hgaps) hne
    · simpa using hgaps
  · rintro ⟨c, hc, hgap⟩
    exact gather_ne_nil hc hgap

/-! ## Names and their readable forms -/

section Ascii

variable {c : Char}

theorem toUpper_toLower (hc : c.toNat < 128) : c.toLower.toUpper = c.toUpper :=
  of_forall_lt (p := fun c => c.toLower.toUpper = c.toUpper) (by decide) hc

theorem toUpper_toUpper (hc : c.toNat < 128) : c.toUpper.toUpper = c.toUpper :=
  of_forall_lt (p := fun c => c.toUpper.toUpper = c.toUpper) (by decide) hc

theorem toUpper_of_isAsciiUpper (hc : c.toNat < 128) : isAsciiUpper c = true → c.toUpper = c :=
  of_forall_lt (p := fun c => isAsciiUpper c = true → c.toUpper = c) (by decide) hc

theorem toLower_of_isAsciiUpper (hc : c.toNat < 128) : isAsciiUpper c = false → c.toLower = c :=
  of_forall_lt (p := fun c => isAsciiUpper c = false → c.toLower = c) (by decide) hc

end Ascii

/-- The characters of an identifier: no gaps, and no small letter in front. -/
structure IsIdentifier (cs : List Char) : Prop where
  plain : ∀ c ∈ cs, c.toNat < 128 ∧ isWordGap c = false
  start : ∀ c ∈ cs.head?, c.toUpper = c

theorem head?_gather (hcs : ∀ c ∈ cs, c.toNat < 128) :
    ∀ c ∈ (gather true cs).head?, c.toUpper = c := by
  induction cs with
  | nil => simp [gather]
  | cons c rest ih =>
    obtain ⟨hc, hrest⟩ := List.forall_mem_cons.mp hcs
    rw [gather]
    split
    · exact ih hrest
    · simp [upperChars_eq hc, toUpper_toUpper hc]

theorem isIdentifier_identifierChars (hcs : ∀ c ∈ cs, c.toNat < 128) :
    IsIdentifier (identifierChars cs) where
  plain _ hc := mem_identifierChars hcs hc
  start := by
    rw [identifierChars_eq_gather]
    exact head?_gather hcs

theorem IsIdentifier.identifierChars_eq (h : IsIdentifier cs) : identifierChars cs = cs := by
  rw [identifierChars_eq_gather]
  cases cs with
  | nil => rfl
  | cons c rest =>
    obtain ⟨⟨hc, hgap⟩, hrest⟩ := List.forall_mem_cons.mp h.plain
    have hupper : c.toUpper = c := h.start c rfl
    simp [gather, hgap, upperChars_eq hc, hupper, gather_of_plain fun d hd => (hrest d hd).2]

/-- A small letter is gathered as the capital that it was made from at the start of a word, and as
itself within one. -/
theorem gather_toLower_cons {start : Bool} {c : Char} (hc : c.toNat < 128)
    (hgap : isWordGap c = false) (hform : if start then c.toUpper = c else c.toLower = c)
    (rest : List Char) : gather start (c.toLower :: rest) = c :: gather false rest := by
  have hlower : isWordGap c.toLower = false := (isWordGap_toLower hc).trans hgap
  cases start with
  | true =>
    have hupper : c.toUpper = c := by simpa using hform
    simp [gather, hlower, upperChars_eq (toLower_lt hc), toUpper_toLower hc, hupper]
  | false =>
    have hsmall : c.toLower = c := by simpa using hform
    simp [gather, hsmall, hgap]

/-- Gathering what was separated before its capitals gives it back. -/
theorem gather_separated {start : Bool} (hplain : ∀ c ∈ cs, c.toNat < 128 ∧ isWordGap c = false)
    (hstart : ∀ c ∈ cs.head?, if start then c.toUpper = c else c.toLower = c) :
    gather start ((replaceBeforeCapitals (fun c => c :: ['_']) cs).map Char.toLower) = cs := by
  have hgap : isWordGap '_'.toLower = true := rfl
  -- along the characters: in front of a capital stands an underscore, so it starts a word
  induction cs using replaceBeforeCapitals.induct generalizing start with
  | case1 => rfl
  | case2 c =>
    obtain ⟨hc, hword⟩ := hplain c (List.mem_singleton_self c)
    exact gather_toLower_cons hc hword (hstart c rfl) []
  | case3 c d rest ih =>
    obtain ⟨⟨hc, hword⟩, hrest⟩ := List.forall_mem_cons.mp hplain
    have hline : (c != '\n') = true := by
      rw [bne_iff_ne]
      rintro rfl
      exact absurd hword (by decide)
    have hd : d.toNat < 128 := (hrest d (List.mem_cons_self ..)).1
    have hfirst := fun rest => gather_toLower_cons hc hword (hstart c rfl) rest
    rw [replaceBeforeCapitals, hline, Bool.true_and, List.map_append]
    cases hcapital : isAsciiUpper d with
    | true =>
      have hmore := @ih true hrest fun e he => by
        obtain rfl : d = e := by simpa using he
        simpa using toUpper_of_isAsciiUpper hd hcapital
      rw [if_pos rfl, List.map_cons, List.map_singleton, List.cons_append, hfirst,
        List.singleton_append, gather, if_pos hgap, hmore]
    | false =>
      have hmore := @ih false hrest fun e he => by
        obtain rfl : d = e := by simpa using he
        simpa using toLower_of_isAsciiUpper hd hcapital
      rw [if_neg Bool.false_ne_true, List.map_singleton, List.singleton_append, hfirst, hmore]

/-- The readable name of an identifier has that identifier. -/
theorem identifier_readable {name : String} (h : IsIdentifier name.toList) :
    identifier (readable name) = name := by
  have hascii : IsAscii name := fun c hc => (h.plain c hc).1
  rcases readable_eq_or hascii with heq | heq
  · rw [heq, identifier, h.identifierChars_eq, String.ofList_toList]
  · have hstart : ∀ c ∈ name.toList.head?, if true then c.toUpper = c else c.toLower = c := by
      simpa using h.start
    rw [heq, identifier, String.toList_ofList, identifierChars_eq_gather]
    exact (congrArg String.ofList (gather_separated h.plain hstart)).trans String.ofList_toList

end PayloadCheck.Rule
