import PayloadCheck.Rule.Token

/-!
# Folded names

Leaving the hyphens, the underscores and the blanks out of a name and writing it in small letters
folds it. For names of the first 128 characters the key of a rule is its folded name, and neither
its identifier nor its readable name folds to anything else (`key_eq_fold`, `fold_identifier`,
`fold_readable`). So a rule keeps its key on every way from the name that is written to the table
in which it is looked up.
-/

namespace PayloadCheck.Rule

open PayloadCheck.Text

/-- A name of the first 128 characters. -/
def IsAscii (name : String) : Prop := ∀ c ∈ name.toList, c.toNat < 128

theorem isAscii_of_all {name : String} (h : (name.toList.all fun c => c.toNat < 128) = true) :
    IsAscii name := by
  intro c hc
  simpa using List.all_eq_true.mp h c hc

/-- A name without hyphens, underscores and blanks, in small letters. -/
def fold (name : String) : String :=
  String.ofList ((name.toList.filter fun c => c != '-' && c != '_' && !isBlank c).map Char.toLower)

/-! ### The first 128 characters -/

section Ascii

variable {c : Char}

/-- What holds of the first 128 characters one by one holds of each of them. -/
theorem of_forall_lt {p : Char → Prop} (h : ∀ n < 128, p (Char.ofNat n)) (hc : c.toNat < 128) :
    p c := by
  have hp := h c.toNat hc
  rwa [Char.ofNat_toNat] at hp

theorem lowerChars_eq (hc : c.toNat < 128) : lowerChars c = [c.toLower] :=
  of_forall_lt (p := fun c => lowerChars c = [c.toLower]) (by decide) hc

theorem upperChars_eq (hc : c.toNat < 128) : upperChars c = [c.toUpper] :=
  of_forall_lt (p := fun c => upperChars c = [c.toUpper]) (by decide) hc

theorem toUpper_lt (hc : c.toNat < 128) : c.toUpper.toNat < 128 :=
  of_forall_lt (p := fun c => c.toUpper.toNat < 128) (by decide) hc

theorem toLower_lt (hc : c.toNat < 128) : c.toLower.toNat < 128 :=
  of_forall_lt (p := fun c => c.toLower.toNat < 128) (by decide) hc

theorem toLower_toUpper (hc : c.toNat < 128) : c.toUpper.toLower = c.toLower :=
  of_forall_lt (p := fun c => c.toUpper.toLower = c.toLower) (by decide) hc

theorem toLower_toLower (hc : c.toNat < 128) : c.toLower.toLower = c.toLower :=
  of_forall_lt (p := fun c => c.toLower.toLower = c.toLower) (by decide) hc

theorem isWordGap_toUpper (hc : c.toNat < 128) : isWordGap c.toUpper = isWordGap c :=
  of_forall_lt (p := fun c => isWordGap c.toUpper = isWordGap c) (by decide) hc

theorem isWordGap_toLower (hc : c.toNat < 128) : isWordGap c.toLower = isWordGap c :=
  of_forall_lt (p := fun c => isWordGap c.toLower = isWordGap c) (by decide) hc

end Ascii

/-! ### Folding and the steps from a name to its key -/

variable {cs : List Char}

/-- The characters of the folded name. -/
def foldChars (cs : List Char) : List Char := (cs.filter fun c => !isWordGap c).map Char.toLower

theorem fold_eq_ofList (name : String) : fold name = String.ofList (foldChars name.toList) := by
  have hgap : (fun c => c != '-' && c != '_' && !isBlank c) = fun c => !isWordGap c := by
    funext c
    simp [isWordGap, bne, Bool.not_or]
  rw [fold, foldChars, hgap]

theorem lowerAfter_eq_map (hcs : ∀ c ∈ cs, c.toNat < 128) (before : List Char) :
    lowerAfter before cs = cs.map Char.toLower := by
  induction cs generalizing before with
  | nil => rfl
  | cons c rest ih =>
    obtain ⟨hc, hrest⟩ := List.forall_mem_cons.mp hcs
    have hsigma : c.toNat ≠ 0x3A3 := by omega
    rw [lowerAfter, if_neg hsigma, lowerChars_eq hc, ih hrest]
    rfl

/-- Put together, the words of a name are what is left of it without the gaps. -/
theorem flatten_words (cs : List Char) : (words cs).flatten = cs.filter fun c => !isWordGap c := by
  rw [← flatten_piecesBy, words]
  induction piecesBy isWordGap cs with
  | nil => rfl
  | cons w rest ih =>
    cases w with
    | nil => simpa using ih
    | cons c more => simp [ih]

theorem mem_of_mem_words {w : List Char} (hw : w ∈ words cs) {c : Char} (hc : c ∈ w) :
    c ∈ cs ∧ isWordGap c = false := by
  have hmem : c ∈ (words cs).flatten := List.mem_flatten.mpr ⟨w, hw, hc⟩
  rw [flatten_words, List.mem_filter] at hmem
  simpa using hmem

theorem map_toLower_capitalize {w : List Char} (hw : ∀ c ∈ w, c.toNat < 128) :
    (capitalize w).map Char.toLower = w.map Char.toLower := by
  cases w with
  | nil => rfl
  | cons c rest =>
    have hc : c.toNat < 128 := hw c (List.mem_cons_self ..)
    simp [capitalize, upperChars_eq hc, toLower_toUpper hc]

theorem mem_capitalize {w : List Char} (hw : ∀ c ∈ w, c.toNat < 128 ∧ isWordGap c = false)
    {c : Char} (hc : c ∈ capitalize w) : c.toNat < 128 ∧ isWordGap c = false := by
  cases w with
  | nil => cases hc
  | cons first rest =>
    obtain ⟨⟨hfirst, hgap⟩, hrest⟩ := List.forall_mem_cons.mp hw
    rw [capitalize, upperChars_eq hfirst, List.singleton_append, List.mem_cons] at hc
    rcases hc with rfl | hc
    · exact ⟨toUpper_lt hfirst, (isWordGap_toUpper hfirst).trans hgap⟩
    · exact hrest c hc

/-- An identifier holds no gaps. -/
theorem mem_identifierChars (hcs : ∀ c ∈ cs, c.toNat < 128) {c : Char}
    (hc : c ∈ identifierChars cs) : c.toNat < 128 ∧ isWordGap c = false := by
  obtain ⟨w, hw, hcw⟩ := List.mem_flatMap.mp hc
  apply mem_capitalize _ hcw
  intro d hd
  obtain ⟨hmem, hgap⟩ := mem_of_mem_words hw hd
  exact ⟨hcs d hmem, hgap⟩

theorem map_toLower_identifierChars (hcs : ∀ c ∈ cs, isWordGap c = false → c.toNat < 128) :
    (identifierChars cs).map Char.toLower = foldChars cs := by
  rw [foldChars, ← flatten_words, List.map_flatten, identifierChars, List.flatMap, List.map_flatten,
    List.map_map]
  congr 1
  apply List.map_congr_left
  intro w hw
  apply map_toLower_capitalize
  intro c hc
  obtain ⟨hmem, hgap⟩ := mem_of_mem_words hw hc
  exact hcs c hmem hgap

theorem foldChars_identifierChars (hcs : ∀ c ∈ cs, c.toNat < 128) :
    foldChars (identifierChars cs) = foldChars cs := by
  have hkept : (identifierChars cs).filter (fun c => !isWordGap c) = identifierChars cs := by
    rw [List.filter_eq_self]
    intro c hc
    simp [(mem_identifierChars hcs hc).2]
  rw [foldChars, hkept, map_toLower_identifierChars fun c hc _ => hcs c hc]

/-- Separating the words of an identifier again adds gaps alone. -/
theorem filter_replaceBeforeCapitals (cs : List Char) :
    (replaceBeforeCapitals (fun c => c :: ['_']) cs).filter (fun c => !isWordGap c) =
      cs.filter fun c => !isWordGap c := by
  have hgap : isWordGap '_' = true := rfl
  induction cs using replaceBeforeCapitals.induct with
  | case1 => rfl
  | case2 c => rfl
  | case3 c d rest ih =>
    rw [replaceBeforeCapitals, List.filter_append, ih]
    by_cases hbefore : (c != '\n' && isAsciiUpper d) = true
    · rw [if_pos hbefore]
      cases hc : isWordGap c <;> simp [List.filter_cons, hc, hgap]
    · rw [if_neg hbefore]
      cases hc : isWordGap c <;> simp [List.filter_cons, hc]

theorem mem_replaceBeforeCapitals {c : Char}
    (hc : c ∈ replaceBeforeCapitals (fun c => c :: ['_']) cs) : c ∈ cs ∨ c = '_' := by
  induction cs using replaceBeforeCapitals.induct with
  | case1 => cases hc
  | case2 d => exact Or.inl hc
  | case3 d e rest ih =>
    rw [replaceBeforeCapitals, List.mem_append] at hc
    rcases hc with hc | hc
    · split at hc
      · simp only [List.mem_cons, List.not_mem_nil, or_false] at hc
        exact hc.imp_left fun heq => by simp [heq]
      · exact Or.inl (by simp_all)
    · exact (ih hc).imp_left (List.mem_cons_of_mem _)

theorem foldChars_lower (hcs : ∀ c ∈ cs, c.toNat < 128) :
    foldChars (cs.map Char.toLower) = foldChars cs := by
  induction cs with
  | nil => rfl
  | cons c rest ih =>
    obtain ⟨hc, hrest⟩ := List.forall_mem_cons.mp hcs
    have ih := ih hrest
    unfold foldChars at ih ⊢
    rw [List.map_cons, List.filter_cons, List.filter_cons, isWordGap_toLower hc]
    split
    · rw [List.map_cons, List.map_cons, toLower_toLower hc, ih]
    · exact ih

/-! ### Names -/

variable {name : String}

theorem isAscii_identifier (h : IsAscii name) : IsAscii (identifier name) := by
  intro c hc
  rw [identifier, String.toList_ofList] at hc
  exact (mem_identifierChars h hc).1

theorem fold_identifier (h : IsAscii name) : fold (identifier name) = fold name := by
  rw [fold_eq_ofList, fold_eq_ofList, identifier, String.toList_ofList,
    foldChars_identifierChars h]

theorem key_eq_fold (h : IsAscii name) : key name = fold name := by
  rw [key_eq_ofList, fold_eq_ofList, lowerAfter_eq_map fun c hc => (mem_identifierChars h hc).1,
    map_toLower_identifierChars fun c hc _ => h c hc]

theorem mem_separateCapitals (h : IsAscii name) :
    ∀ c ∈ separateCapitals "_".toList name.toList, c.toNat < 128 := by
  intro c hc
  rcases mem_replaceBeforeCapitals hc with hmem | rfl
  · exact h c hmem
  · decide

/-- The readable name is the name itself, or it differs by underscores and by small letters. -/
theorem readable_eq_or (h : IsAscii name) : readable name = name ∨ readable name =
    String.ofList ((separateCapitals "_".toList name.toList).map Char.toLower) := by
  unfold readable separated
  split
  · exact Or.inl rfl
  · right
    rw [lower, String.toList_ofList, lowerAfter_eq_map (mem_separateCapitals h)]

theorem isAscii_readable (h : IsAscii name) : IsAscii (readable name) := by
  rcases readable_eq_or h with heq | heq
  · rw [heq]
    exact h
  · intro c hc
    rw [heq, String.toList_ofList] at hc
    obtain ⟨d, hd, rfl⟩ := List.mem_map.mp hc
    exact toLower_lt (mem_separateCapitals h d hd)

theorem fold_readable (h : IsAscii name) : fold (readable name) = fold name := by
  rcases readable_eq_or h with heq | heq
  · rw [heq]
  · rw [heq, fold_eq_ofList, fold_eq_ofList, String.toList_ofList,
      foldChars_lower (mem_separateCapitals h), foldChars, foldChars]
    exact congrArg _ (congrArg _ (filter_replaceBeforeCapitals name.toList))

theorem isAscii_fold (h : IsAscii name) : IsAscii (fold name) := by
  intro c hc
  rw [fold, String.toList_ofList] at hc
  obtain ⟨d, hd, rfl⟩ := List.mem_map.mp hc
  exact toLower_lt (h d (List.mem_filter.mp hd).1)

theorem fold_fold (h : IsAscii name) : fold (fold name) = fold name := by
  have hkept : ((foldChars name.toList).filter fun c => !isWordGap c) = foldChars name.toList := by
    rw [List.filter_eq_self]
    intro c hc
    obtain ⟨d, hd, rfl⟩ := List.mem_map.mp hc
    obtain ⟨hmem, hgap⟩ := List.mem_filter.mp hd
    rwa [isWordGap_toLower (h d hmem)]
  have hsmall : (foldChars name.toList).map Char.toLower = foldChars name.toList := by
    rw [foldChars, List.map_map]
    apply List.map_congr_left
    intro d hd
    exact toLower_toLower (h d (List.mem_filter.mp hd).1)
  rw [fold_eq_ofList (fold name), fold_eq_ofList name, String.toList_ofList]
  rw [foldChars, hkept, hsmall]

/-- However a token goes on behind its name, its rule has the identifier of that name. -/
theorem name_of_readToken {token : String} {rule : Spec} (hcolon : ':' ∉ name.toList)
    (htoken : token = name ∨ ∃ t, token = name ++ ":" ++ t)
    (hread : readToken token = .ok (some rule)) : rule.name = identifier name := by
  rcases htoken with rfl | ⟨t, rfl⟩
  · rcases readToken_eq_some hread with ⟨-, rfl⟩ | ⟨before, text, ps, hcut, -, -⟩
    · rfl
    · rw [cut?_of_not_mem hcolon] at hcut
      cases hcut
  · have hchars : (name ++ ":" ++ t).toList = name.toList ++ ':' :: t.toList := by simp
    have hcut : cut? ':' (name ++ ":" ++ t).toList = some (name.toList, t.toList) := by
      rw [hchars]
      exact cut?_append_sep hcolon t.toList
    rcases readToken_eq_some hread with ⟨hnone, -⟩ | ⟨before, text, ps, hsome, -, rfl⟩
    · rw [hcut] at hnone
      cases hnone
    · rw [hcut] at hsome
      cases hsome
      rfl

end PayloadCheck.Rule
