import PayloadCheck.Proofs.Number.Numeral
import PayloadCheck.Proofs.Rule.Writing
import PayloadCheck.Proofs.Text.Casing

/-!
# Spellings of the rule on patterns

The key of a rule passes over the hyphens, underscores and blanks in its name, while the parameters of
`regex` are taken whole only where its name is written in one word, blanks around it left aside
(`takesWhole_iff_isOneWord`). In every other spelling they are read as a row, and a row is a single
field as it stands only where nothing in it needs quotes (`Row.read_eq_self_iff`). So a pattern
stays whole exactly in these two cases (`pattern_is_whole_iff`).
-/

namespace PayloadCheck.Rule

open PayloadCheck.Text

/-! ### Rows of one field -/

namespace Row

namespace Reading

/-- The number of characters that were taken over into fields. -/
def kept (r : Reading) : Nat := (r.fields.map List.length).sum + r.current.length

variable {r r' : Reading} {c : Char}

theorem kept_close (s : State) : (r.close s).kept = r.kept := by
  simp [close, kept, Nat.add_comm]

theorem kept_push {s : State} (h : r.push s c = .ok r') : r'.kept = r.kept + 1 ∧ r'.state = s := by
  unfold push at h
  split at h
  · cases h
  · cases h
    exact ⟨by simp [kept, Nat.add_assoc], rfl⟩

theorem beginField_cases (h : r.beginField c = .ok r') :
    (∃ s, r' = { r with state := s }) ∨ (∃ s, r' = r.close s) ∨
      (r.push .inField c = .ok r' ∧ c ≠ '"' ∧ c ≠ ',' ∧ isLineEnd c = false) := by
  unfold beginField at h
  split at h
  · exact .inr (.inl ⟨_, (Except.ok.inj h).symm⟩)
  next hend =>
  split at h
  · exact .inl ⟨_, (Except.ok.inj h).symm⟩
  next hquote =>
  split at h
  · exact .inr (.inl ⟨_, (Except.ok.inj h).symm⟩)
  next hcomma => exact .inr (.inr ⟨h, hquote, hcomma, Bool.eq_false_iff.mpr hend⟩)

/-- What reading one character can do: go on, finish a field, or add the character to one. One that is
added at the start of a row or inside a field belongs to a field without quotes. -/
theorem step_cases (h : r.step c = .ok r') :
    (∃ s, r' = { r with state := s }) ∨ (∃ s, r' = r.close s) ∨
      ∃ s, r.push s c = .ok r' ∧ (r.state = .rowStart ∨ r.state = .inField →
        s = .inField ∧ c ≠ ',' ∧ isLineEnd c = false ∧ (r.state = .rowStart → c ≠ '"')) := by
  unfold step at h
  cases hs : r.state with
  | rowStart =>
    simp only [hs] at h
    split at h
    · exact .inl ⟨_, (Except.ok.inj h).symm⟩
    · rcases beginField_cases h with hgoes | hcloses | ⟨hpush, hquote, hcomma, hend⟩
      · exact .inl hgoes
      · exact .inr (.inl hcloses)
      · exact .inr (.inr ⟨_, hpush, fun _ => ⟨rfl, hcomma, hend, fun _ => hquote⟩⟩)
  | fieldStart =>
    simp only [hs] at h
    rcases beginField_cases h with hgoes | hcloses | ⟨hpush, -⟩
    · exact .inl hgoes
    · exact .inr (.inl hcloses)
    · exact .inr (.inr ⟨_, hpush, by simp⟩)
  | inField =>
    simp only [hs] at h
    split at h
    · exact .inr (.inl ⟨_, (Except.ok.inj h).symm⟩)
    next hend =>
    split at h
    · exact .inr (.inl ⟨_, (Except.ok.inj h).symm⟩)
    next hcomma =>
    exact .inr (.inr ⟨_, h, fun _ => ⟨rfl, hcomma, Bool.eq_false_iff.mpr hend, by simp⟩⟩)
  | inQuotes =>
    simp only [hs] at h
    split at h
    · exact .inl ⟨_, (Except.ok.inj h).symm⟩
    · exact .inr (.inr ⟨_, h, by simp⟩)
  | afterQuote =>
    simp only [hs] at h
    split at h
    · exact .inr (.inr ⟨_, h, by simp⟩)
    · split at h
      · exact .inr (.inl ⟨_, (Except.ok.inj h).symm⟩)
      · split at h
        · exact .inr (.inl ⟨_, (Except.ok.inj h).symm⟩)
        · exact .inr (.inr ⟨_, h, by simp⟩)
  | rowEnd =>
    simp only [hs] at h
    split at h
    · exact .inl ⟨r.state, (Except.ok.inj h).symm⟩
    · cases h

/-- A character is kept or not. One that is kept at the start of a row or inside a field belongs to a
field without quotes. -/
theorem kept_step (h : r.step c = .ok r') : r'.kept ≤ r.kept + 1 ∧
    (r.kept < r'.kept → r.state = .rowStart ∨ r.state = .inField →
      c ≠ ',' ∧ isLineEnd c = false ∧ r'.state = .inField ∧ (r.state = .rowStart → c ≠ '"')) := by
  rcases step_cases h with ⟨s, rfl⟩ | ⟨s, rfl⟩ | ⟨s, hpush, hplain⟩
  · simp [kept]
  · simp [kept_close]
  · obtain ⟨hkept, hstate⟩ := kept_push hpush
    refine ⟨by omega, fun _ hs => ?_⟩
    obtain ⟨rfl, hcomma, hend, hquote⟩ := hplain hs
    exact ⟨hcomma, hend, hstate, hquote⟩

variable {cs : List Char}

theorem foldlM_cons_eq_ok (h : (c :: cs).foldlM step r = .ok r') :
    ∃ s, r.step c = .ok s ∧ cs.foldlM step s = .ok r' := by
  rw [List.foldlM_cons] at h
  cases hstep : r.step c with
  | error fault =>
    rw [hstep] at h
    cases h
  | ok s =>
    rw [hstep] at h
    exact ⟨s, rfl, h⟩

theorem kept_foldlM (h : cs.foldlM step r = .ok r') : r'.kept ≤ r.kept + cs.length := by
  induction cs generalizing r with
  | nil =>
    cases h
    exact Nat.le_refl _
  | cons c rest ih =>
    obtain ⟨s, hstep, hrest⟩ := foldlM_cons_eq_ok h
    have hle := (kept_step hstep).1
    have hmore := ih hrest
    rw [List.length_cons]
    omega

theorem sum_length_finish (r : Reading) : (r.finish.map List.length).sum ≤ r.kept := by
  have hclosed : ((r.close .rowEnd).fields.reverse.map List.length).sum = r.kept := by
    rw [List.map_reverse, List.sum_reverse, ← kept_close .rowEnd]
    simp [kept, close]
  have hopen : (r.fields.reverse.map List.length).sum ≤ r.kept := by
    rw [List.map_reverse, List.sum_reverse]
    exact Nat.le_add_right _ _
  unfold finish
  cases r.state with
  | rowStart | rowEnd => exact hopen
  | fieldStart | inField | inQuotes | afterQuote => exact Nat.le_of_eq hclosed

/-- Where every character is kept, none of them ends a field. -/
theorem plain_of_kept (hs : r.state = .inField) (h : cs.foldlM step r = .ok r')
    (hkept : r'.kept = r.kept + cs.length) : ∀ c ∈ cs, c ≠ ',' ∧ isLineEnd c = false := by
  induction cs generalizing r with
  | nil => exact fun c hc => nomatch hc
  | cons c rest ih =>
    obtain ⟨s, hstep, hrest⟩ := foldlM_cons_eq_ok h
    obtain ⟨hle, hkeeps⟩ := kept_step hstep
    have hmore := kept_foldlM hrest
    rw [List.length_cons] at hkept
    obtain ⟨hcomma, hend, hstate, -⟩ := hkeeps (by omega) (Or.inr hs)
    exact List.forall_mem_cons.mpr ⟨⟨hcomma, hend⟩, ih hstate hrest (by omega)⟩

/-- A field without quotes that is read at all is read as it stands. -/
theorem eq_of_foldlM_plain (hcs : ∀ c ∈ cs, c ≠ ',' ∧ isLineEnd c = false)
    (hs : r.state = .inField) (h : cs.foldlM step r = .ok r') :
    r'.state = .inField ∧ r'.fields = r.fields ∧ r'.current = cs.reverse ++ r.current := by
  induction cs generalizing r with
  | nil =>
    cases h
    exact ⟨hs, rfl, rfl⟩
  | cons c rest ih =>
    obtain ⟨⟨hcomma, hend⟩, hrest⟩ := List.forall_mem_cons.mp hcs
    obtain ⟨s, hstep, hmore⟩ := foldlM_cons_eq_ok h
    have hpush : r.push .inField c = .ok s := by
      rw [← hstep]
      simp [step, hs, hcomma, hend]
    obtain ⟨hstate, hfields, hcurrent⟩ := ih hrest (kept_push hpush).2 hmore
    unfold push at hpush
    split at hpush
    · cases hpush
    · cases hpush
      exact ⟨hstate, hfields, by rw [hcurrent, List.reverse_cons, List.append_assoc]; rfl⟩

end Reading

open Reading

theorem read_eq_ok_iff {cs : List Char} {fields : List (List Char)} :
    read cs = .ok fields ↔
      ∃ r, cs.foldlM step ⟨.rowStart, [], [], 0⟩ = .ok r ∧ r.finish = fields := by
  unfold read
  cases cs.foldlM step ⟨.rowStart, [], [], 0⟩ <;> simp [Except.map]

/-- A row that can be read is one field as it stands iff something stands there, and it needs no
quotes. -/
theorem read_eq_self_iff {cs : List Char} {fields : List (List Char)} (h : read cs = .ok fields) :
    fields = [cs] ↔ cs ≠ [] ∧ IsBare cs := by
  obtain ⟨r, hr, hfinish⟩ := read_eq_ok_iff.mp h
  cases cs with
  | nil =>
    cases hr
    subst hfinish
    simp [finish]
  | cons c rest =>
    obtain ⟨s, hstep, hrest⟩ := foldlM_cons_eq_ok hr
    have hstart : Reading.kept ⟨.rowStart, [], [], 0⟩ = 0 := rfl
    obtain ⟨hle, hkeeps⟩ := kept_step hstep
    rw [hstart] at hle hkeeps
    constructor
    · intro hfields
      have hsum := sum_length_finish r
      rw [hfinish, hfields, List.map_singleton, List.sum_singleton, List.length_cons] at hsum
      have hmore := kept_foldlM hrest
      obtain ⟨hcomma, hend, hstate, hquote⟩ := hkeeps (by omega) (Or.inl rfl)
      have hplain := plain_of_kept hstate hrest (by omega)
      refine ⟨List.cons_ne_nil c rest, ⟨List.forall_mem_cons.mpr ⟨⟨hcomma, hend⟩, hplain⟩, ?_⟩⟩
      rw [List.head?_cons]
      exact fun hhead => hquote rfl (Option.some.inj hhead)
    · rintro ⟨-, hplain, hhead⟩
      obtain ⟨⟨hcomma, hend⟩, hplain⟩ := List.forall_mem_cons.mp hplain
      have hquote : c ≠ '"' := fun hc => hhead (by rw [hc, List.head?_cons])
      rw [step_start [] (Or.inl rfl) hcomma hend hquote] at hstep
      cases hstep
      obtain ⟨hstate, hdone, hcurrent⟩ := eq_of_foldlM_plain hplain rfl hrest
      simp [← hfinish, finish, hstate, close, hdone, hcurrent]

end Row

/-! ### Names written in one word -/

/-- A name of one word, perhaps with blanks around it. -/
def IsOneWord (name : String) : Prop := ∀ c ∈ trimChars name.toList, isWordGap c = false

instance (name : String) : Decidable (IsOneWord name) :=
  decidable_of_iff ((trimChars name.toList).all (!isWordGap ·) = true) (by simp [IsOneWord])

variable {cs : List Char}

theorem forall_mem_of_lowerAfter (before : List Char)
    (h : ∀ d ∈ lowerAfter before cs, d ∈ regexLetters) : ∀ c ∈ cs, c ∈ regexLetters := by
  induction cs generalizing before with
  | nil => exact fun c hc => nomatch hc
  | cons c rest ih =>
    rw [lowerAfter, List.forall_mem_append] at h
    refine List.forall_mem_cons.mpr ⟨?_, ih _ h.2⟩
    have hform := h.1
    split at hform
    · -- neither form of a sigma is such a letter
      rw [List.forall_mem_singleton] at hform
      split at hform <;> exact absurd hform (by decide)
    · exact mem_regexLetters_of_lowerChars hform

theorem isWordGap_of_mem_identifierChars {c : Char} (hc : c ∈ identifierChars cs) :
    isWordGap c = false := by
  obtain ⟨w, hw, hcw⟩ := List.mem_flatMap.mp hc
  cases w with
  | nil => cases hcw
  | cons first rest =>
    rw [capitalize, List.mem_append] at hcw
    rcases hcw with hcw | hcw
    · exact isWordGap_of_mem_upperChars (mem_of_mem_words hw List.mem_cons_self).2 hcw
    · exact (mem_of_mem_words hw (List.mem_cons_of_mem _ hcw)).2

theorem forall_mem_of_identifierChars (h : ∀ d ∈ identifierChars cs, d ∈ regexLetters) :
    ∀ c ∈ cs, isWordGap c = false → c ∈ regexLetters := by
  intro c hc hgap
  have hwords : c ∈ (words cs).flatten := by
    rw [flatten_words, List.mem_filter]
    exact ⟨hc, by rw [hgap]; rfl⟩
  obtain ⟨w, hw, hcw⟩ := List.mem_flatten.mp hwords
  have hcapitals : ∀ d ∈ capitalize w, d ∈ regexLetters :=
    fun d hd => h d (List.mem_flatMap.mpr ⟨w, hw, hd⟩)
  cases w with
  | nil => cases hcw
  | cons first rest =>
    rw [capitalize, List.forall_mem_append] at hcapitals
    rcases List.mem_cons.mp hcw with rfl | hrest
    · exact mem_regexLetters_of_upperChars hgap hcapitals.1
    · exact hcapitals.2 c hrest

theorem forall_isWordGap_of_isBlank {gaps : List Char} (h : ∀ c ∈ gaps, isBlank c = true) :
    gaps.filter (fun c => !isWordGap c) = [] := by
  rw [List.filter_eq_nil_iff]
  intro c hc
  simp [isWordGap, h c hc]

theorem mem_of_mem_trimChars {c : Char} (hc : c ∈ trimChars cs) : c ∈ cs := by
  obtain ⟨before, after, haround, -⟩ := exists_around isBlank cs
  rw [haround]
  exact List.mem_append_right _ (List.mem_append_left _ hc)

theorem filter_eq_trimChars (h : ∀ c ∈ trimChars cs, isWordGap c = false) :
    cs.filter (fun c => !isWordGap c) = trimChars cs := by
  obtain ⟨before, after, haround, hbefore, hafter⟩ := exists_around isBlank cs
  have hkept : (trimChars cs).filter (fun c => !isWordGap c) = trimChars cs := by
    rw [List.filter_eq_self]
    exact fun c hc => by rw [h c hc]; rfl
  calc cs.filter (fun c => !isWordGap c)
      = (before ++ (trimChars cs ++ after)).filter (fun c => !isWordGap c) := congrArg _ haround
    _ = trimChars cs := by
      rw [List.filter_append, List.filter_append, forall_isWordGap_of_isBlank hbefore,
        forall_isWordGap_of_isBlank hafter, hkept, List.nil_append, List.append_nil]

theorem toNat_lt_of_mem_regexLetters : ∀ c ∈ regexLetters, c.toNat < 128 := by
  simp [regexLetters]

theorem takesWhole_iff : takesWhole cs = true ↔ lowerAfter [] (trimChars cs) = "regex".toList := by
  rw [takesWhole, beq_iff_eq, lower, String.toList_ofList, ← String.toList_inj,
    String.toList_ofList]

theorem key_eq_iff (cs : List Char) : key (String.ofList (identifierChars cs)) = Rule.key "regex" ↔
    lowerAfter [] (identifierChars (identifierChars cs)) = "regex".toList := by
  have hkey : Rule.key "regex" = "regex" := key_of_chars rfl
  rw [key_eq_ofList, String.toList_ofList, hkey, ← String.toList_inj, String.toList_ofList]

/-- A name with the key `regex` becomes that word when its gaps are left out. -/
theorem map_toLower_of_key
    (hkey : lowerAfter [] (identifierChars (identifierChars cs)) = "regex".toList) :
    (∀ c ∈ cs, isWordGap c = false → c ∈ regexLetters) ∧
      (cs.filter fun c => !isWordGap c).map Char.toLower = "regex".toList := by
  have hsmall : ∀ d ∈ lowerAfter [] (identifierChars (identifierChars cs)), d ∈ regexLetters := by
    rw [hkey]
    simp [regexLetters]
  have hkeyLetters := forall_mem_of_lowerAfter [] hsmall
  have hidLetters : ∀ c ∈ identifierChars cs, c ∈ regexLetters := fun c hc =>
    forall_mem_of_identifierChars hkeyLetters c hc (isWordGap_of_mem_identifierChars hc)
  have hletters := forall_mem_of_identifierChars hidLetters
  refine ⟨hletters, ?_⟩
  have hid : ∀ c ∈ identifierChars cs, c.toNat < 128 :=
    fun c hc => toNat_lt_of_mem_regexLetters c (hidLetters c hc)
  have hkept : (identifierChars cs).filter (fun c => !isWordGap c) = identifierChars cs := by
    rw [List.filter_eq_self]
    exact fun c hc => by rw [isWordGap_of_mem_identifierChars hc]; rfl
  calc (cs.filter fun c => !isWordGap c).map Char.toLower
      = (identifierChars cs).map Char.toLower := (map_toLower_identifierChars fun c hc hgap =>
          toNat_lt_of_mem_regexLetters c (hletters c hc hgap)).symm
    _ = foldChars (identifierChars cs) := by rw [foldChars, hkept]
    _ = (identifierChars (identifierChars cs)).map Char.toLower :=
          (map_toLower_identifierChars fun c hc _ => hid c hc).symm
    _ = lowerAfter [] (identifierChars (identifierChars cs)) := (lowerAfter_eq_map
          (fun c hc => toNat_lt_of_mem_regexLetters c (hkeyLetters c hc)) []).symm
    _ = "regex".toList := hkey

/-- Among the spellings under which a rule has the key `regex`, those in one word are the ones in
which its parameters are taken whole. -/
theorem takesWhole_iff_isOneWord {name : String}
    (hkey : key (identifier name) = Rule.key "regex") :
    takesWhole name.toList = true ↔ IsOneWord name := by
  rw [takesWhole_iff]
  constructor
  · intro hlower c hc
    have hsmall : ∀ d ∈ lowerAfter [] (trimChars name.toList), d ∈ regexLetters := by
      rw [hlower]
      simp [regexLetters]
    have hnone : regexLetters.any isWordGap = false := by decide
    exact Bool.eq_false_iff.mpr
      (List.any_eq_false.mp hnone c (forall_mem_of_lowerAfter [] hsmall c hc))
  · intro hword
    obtain ⟨hletters, hfolded⟩ := map_toLower_of_key ((key_eq_iff name.toList).mp hkey)
    rw [filter_eq_trimChars hword] at hfolded
    rw [← hfolded]
    refine lowerAfter_eq_map (fun c hc => ?_) []
    exact toNat_lt_of_mem_regexLetters c (hletters c (mem_of_mem_trimChars hc) (hword c hc))

/-! ### Patterns as parameters -/

/-- **A pattern stays whole in one word or where it needs no quotes.** A token with the key `regex` has
    the text behind its colon as its only parameter iff its name is written in one word or that text
    is a field as it stands: not empty, without commas and line ends, and no quote in front. In any
    other spelling of the name the parameters are the fields of that text, read as a row. -/
theorem pattern_is_whole_iff {name text : String} (hcolon : ':' ∉ name.toList) {rule : Spec}
    (hread : readToken (name ++ ":" ++ text) = .ok (some rule))
    (hkey : rule.key = Rule.key "regex") :
    (rule.parameters = [text] ↔ IsOneWord name ∨ text ≠ "" ∧ Row.IsBare text.toList) ∧
      (¬ IsOneWord name → Row.read text.toList = .ok (rule.parameters.map String.toList)) := by
  have hchars : (name ++ ":" ++ text).toList = name.toList ++ ':' :: text.toList := by simp
  obtain ⟨ps, hps, rfl⟩ : ∃ ps, readParameters name.toList text.toList = .ok ps ∧
      rule = ⟨identifier name, ps⟩ := by
    rcases readToken_eq_some hread with ⟨hnone, -⟩ | ⟨before, after, ps, hcut, hps, rfl⟩
    · rw [hchars, cut?_append_sep hcolon] at hnone
      cases hnone
    · rw [hchars, cut?_append_sep hcolon] at hcut
      cases hcut
      exact ⟨ps, hps, rfl⟩
  have hwhole : takesWhole name.toList = true ↔ IsOneWord name := takesWhole_iff_isOneWord hkey
  unfold readParameters at hps
  by_cases hword : IsOneWord name
  · rw [if_pos (hwhole.mpr hword), String.ofList_toList] at hps
    cases hps
    exact ⟨by simp [hword], fun h => absurd hword h⟩
  · rw [if_neg (mt hwhole.mp hword)] at hps
    cases hrow : Row.read text.toList with
    | error fault =>
      rw [hrow] at hps
      cases hps
    | ok fields =>
      rw [hrow] at hps
      cases hps
      have hfields : (fields.map String.ofList).map String.toList = fields := by
        simp [Function.comp_def]
      refine ⟨?_, fun _ => congrArg Except.ok hfields.symm⟩
      have hne : text ≠ "" ↔ text.toList ≠ [] := by simp
      rw [hne, ← Row.read_eq_self_iff hrow, or_iff_right hword]
      constructor
      · intro hps
        rw [← hfields, show fields.map String.ofList = [text] from hps, List.map_singleton]
      · rintro rfl
        simp

theorem key_regEx (ps : List String) : Spec.key ⟨"RegEx", ps⟩ = Rule.key "regex" := by
  have hstudly : Rule.key "RegEx" = "regex" := key_of_chars rfl
  have hplain : Rule.key "regex" = "regex" := key_of_chars rfl
  exact hstudly.trans hplain.symm

/-- In one word with blanks around it the pattern keeps its comma, and in two it keeps a quote that
is not in front. -/
theorem pattern_is_whole_iff_comma :
    (readToken (" RegEx\t" ++ ":" ++ "^a,b$") = .ok (some ⟨"RegEx", ["^a,b$"]⟩) ∧
      IsOneWord " RegEx\t") ∧
    readToken ("reg-ex" ++ ":" ++ "^\"$") = .ok (some ⟨"RegEx", ["^\"$"]⟩) ∧
      ¬ IsOneWord "reg-ex" ∧ Row.IsBare "^\"$".toList := by
  have hcomma : readToken (" RegEx\t" ++ ":" ++ "^a,b$") = .ok (some ⟨"RegEx", ["^a,b$"]⟩) :=
    readToken_of_writes (by decide) (by decide) (.whole (by decide))
  have hbare : Row.IsBare "^\"$".toList := ⟨by simp [Row.isLineEnd], by simp⟩
  have hquote : readToken ("reg-ex" ++ ":" ++ "^\"$") = .ok (some ⟨"RegEx", ["^\"$"]⟩) :=
    readToken_of_writes (by decide) (by decide)
      (.row (by decide) ⟨.last (.bare hbare), by simp⟩ (by decide))
  have hone := (pattern_is_whole_iff (by decide) hcomma (key_regEx _)).1.mp rfl
  have htwo := (pattern_is_whole_iff (by decide) hquote (key_regEx _)).1.mp rfl
  have hparted : ¬ IsOneWord "reg-ex" := by decide
  refine ⟨⟨hcomma, hone.resolve_right ?_⟩, hquote, hparted, (htwo.resolve_left hparted).2⟩
  rintro ⟨-, hplain, -⟩
  exact (hplain ',' (by decide)).1 rfl

/-- In two words the rule splits its pattern. -/
theorem readToken_of_parted_name : ¬ ∀ (name text : String) (rule : Spec), ':' ∉ name.toList →
    readToken (name ++ ":" ++ text) = .ok (some rule) → rule.key = Rule.key "regex" →
      rule.parameters = [text] := by
  intro hwhole
  have hrow : Row.Written [['a'], ['b']] "a,b".toList := by
    have hbare : Row.IsBare ['a'] ∧ Row.IsBare ['b'] :=
      ⟨⟨by simp [Row.isLineEnd], by simp⟩, ⟨by simp [Row.isLineEnd], by simp⟩⟩
    exact ⟨.more (.bare hbare.1) (.last (.bare hbare.2)), by simp⟩
  have hread : readToken ("reg_ex" ++ ":" ++ "a,b") = .ok (some ⟨"RegEx", ["a", "b"]⟩) :=
    readToken_of_writes (by decide) (by decide) (.row (by decide) hrow (by decide))
  exact absurd (hwhole _ _ _ (by decide) hread (key_regEx _)) (by decide)

end PayloadCheck.Rule
