import PayloadCheck.Pattern.Expression

/-!
# Delimited patterns

A pattern between two equal delimiters, with modifiers behind the second one, is handed over without
them and under the options of its modifiers, whatever its body holds; any other pattern is handed
over as it is written (`delimited_pattern_is_unwrapped`). The last delimiter is the one that ends
the body, as neither a modifier nor a line end is a delimiter (`delimited?_eq_some_iff`).
-/

namespace PayloadCheck.Pattern

open PayloadCheck.Text

/-! ### Options of modifiers -/

/-- Options that are switched on in either of two. -/
def Options.union (o p : Options) : Options where
  ignoreCase := o.ignoreCase || p.ignoreCase
  multiline := o.multiline || p.multiline
  dotAll := o.dotAll || p.dotAll
  verbose := o.verbose || p.verbose
  ascii := o.ascii || p.ascii

/-- The options that a modifier stands for. -/
def modifierOptions : Char → Options
  | 'i' => { ignoreCase := true }
  | 'm' => { multiline := true }
  | 's' => { dotAll := true }
  | 'x' => { verbose := true }
  | _ => {}

/-- The union of the options of modifiers. -/
def optionsOf (letters : List Char) : Options :=
  letters.foldl (fun o c => o.union (modifierOptions c)) {}

theorem switchOn_union {c : Char} (hc : c ∈ modifiers) {o : Options} (ho : o.ascii = false)
    (letters : List Char) :
    (o.union (modifierOptions c)).switchOn letters = o.switchOn (c :: letters) ∧
      (o.union (modifierOptions c)).ascii = false := by
  simp only [modifiers, List.mem_cons, List.not_mem_nil, or_false] at hc
  rcases hc with rfl | rfl | rfl | rfl | rfl | rfl <;>
    simp [Options.union, modifierOptions, Options.switchOn, ho]

theorem switchOn_eq_optionsOf {letters : List Char} (h : ∀ l ∈ letters, l ∈ modifiers) :
    ({} : Options).switchOn letters = optionsOf letters := by
  have hfold : ∀ o : Options, o.ascii = false → o.switchOn letters =
      letters.foldl (fun o c => o.union (modifierOptions c)) o := by
    induction letters with
    | nil =>
      intro o _
      simp [Options.switchOn]
    | cons c rest ih =>
      obtain ⟨hc, hrest⟩ := List.forall_mem_cons.mp h
      intro o ho
      obtain ⟨hswitch, hascii⟩ := switchOn_union hc ho rest
      rw [List.foldl_cons, ← ih hrest _ hascii, hswitch]
  exact hfold {} rfl

/-! ### The delimiters -/

/-- A pattern between two equal delimiters, with modifiers behind the second one. -/
def IsDelimited (cs : List Char) : Prop :=
  ∃ c ∈ delimiters, ∃ body letters, (∀ l ∈ letters, l ∈ modifiers) ∧
    cs = c :: body ++ c :: letters

/-- What may end a text without being seen: nothing at all, or a single line end. -/
def IsUnseen (line : List Char) : Prop := line = [] ∨ line = ['\n']

theorem exists_unseen (cs : List Char) : ∃ line, IsUnseen line ∧ cs = dropLineEnd cs ++ line := by
  unfold dropLineEnd
  split
  · next hlast =>
    obtain ⟨before, rfl⟩ := List.getLast?_eq_some_iff.mp hlast
    exact ⟨['\n'], Or.inr rfl, by rw [List.dropLast_concat]⟩
  · exact ⟨[], Or.inl rfl, (List.append_nil _).symm⟩

theorem dropLineEnd_append {cs line : List Char} (hcs : '\n' ∉ cs) (hline : IsUnseen line) :
    dropLineEnd (cs ++ line) = cs := by
  rcases hline with rfl | rfl
  · rw [List.append_nil, dropLineEnd, if_neg]
    exact fun hlast => hcs (List.mem_of_getLast? hlast)
  · rw [dropLineEnd, if_pos List.getLast?_concat, List.dropLast_concat]

theorem modifier_spec {l : Char} (hl : l ∈ modifiers) : l ∉ delimiters ∧ l ≠ '\n' := by
  simp only [modifiers, List.mem_cons, List.not_mem_nil, or_false] at hl
  rcases hl with rfl | rfl | rfl | rfl | rfl | rfl <;> decide

theorem not_mem_of_letters {c : Char} (hc : c ∈ delimiters) {letters line : List Char}
    (hletters : ∀ l ∈ letters, l ∉ delimiters) (hline : IsUnseen line) : c ∉ letters ++ line := by
  intro hmem
  rcases List.mem_append.mp hmem with hmem | hmem
  · exact hletters c hmem hc
  · rcases hline with rfl | rfl
    · cases hmem
    · rw [List.mem_singleton.mp hmem] at hc
      revert hc
      decide

/-- What stands behind the last of several equal characters. -/
theorem after_last_eq {c : Char} {body after body' after' : List Char} (h : c ∉ after)
    (h' : c ∉ after') (heq : body ++ c :: after = body' ++ c :: after') : after = after' := by
  have hcut : cut? c (body ++ c :: after).reverse = some (after.reverse, body.reverse) :=
    cut?_reverse h
  rw [heq, cut?_reverse h'] at hcut
  have hafter := congrArg Prod.fst (Option.some.inj hcut)
  exact (List.reverse_inj.mp hafter).symm

/-- Behind the last delimiter there is nothing but modifiers, and perhaps a line end. -/
theorem delimited?_eq_some_iff {cs body letters : List Char} :
    delimited? cs = some (body, letters) ↔
      ∃ c ∈ delimiters, ∃ line, IsUnseen line ∧ (∀ l ∈ letters, l ∈ modifiers) ∧
        cs = c :: body ++ c :: (letters ++ line) := by
  constructor
  · intro h
    unfold delimited? at h
    split at h
    · cases h
    next c rest =>
    split at h
    · next hc =>
      split at h
      · cases h
      next after before hcut =>
      dsimp only at h
      split at h
      · next hall =>
        cases h
        obtain ⟨hrest, -⟩ := cut?_eq_some hcut
        obtain ⟨line, hline, hafter⟩ := exists_unseen after.reverse
        refine ⟨c, List.contains_iff_mem.mp hc, line, hline, ?_, ?_⟩
        · intro l hl
          exact List.contains_iff_mem.mp (List.all_eq_true.mp hall l hl)
        · rw [← hafter, ← List.reverse_reverse rest, hrest]
          simp
      · cases h
    · cases h
  · rintro ⟨c, hc, line, hline, hletters, rfl⟩
    have hlast : c ∉ letters ++ line :=
      not_mem_of_letters hc (fun l hl => (modifier_spec (hletters l hl)).1) hline
    have hkept : dropLineEnd (letters ++ line) = letters :=
      dropLineEnd_append (fun hmem => (modifier_spec (hletters _ hmem)).2 rfl) hline
    have hall : letters.all modifiers.contains = true :=
      List.all_eq_true.mpr fun l hl => List.contains_iff_mem.mpr (hletters l hl)
    rw [List.cons_append, delimited?, if_pos (List.contains_iff_mem.mpr hc), cut?_reverse hlast]
    simp only [List.reverse_reverse, hkept, hall, if_true]

/-! ### What is handed over -/

/-- A parameter is compiled as a pattern under options. -/
structure CompiledAs (parameter : String) (body : List Char) (options : Options) : Prop where
  handed : handedOver parameter.toList = (body, options)
  result : Expression.ofParameter parameter = Expression.compile parameter body options

theorem compiledAs_of_handedOver {cs body : List Char} {options : Options}
    (h : handedOver cs = (body, options)) : CompiledAs (String.ofList cs) body options := by
  have hhanded : handedOver (String.ofList cs).toList = (body, options) := by
    rw [String.toList_ofList, h]
  refine ⟨hhanded, ?_⟩
  rw [Expression.ofParameter, hhanded]

theorem handedOver_of_delimited?_eq_none {cs : List Char} (h : delimited? cs = none) :
    handedOver cs = (cs, {}) := by
  rw [handedOver, h]

/-- **Only delimited patterns are unwrapped.** Of a delimiter, a body, the same delimiter and
    modifiers the body is compiled, under the union of the options that the modifiers stand for,
    also where the body holds the delimiter, letters or line ends. A parameter that does not end
    with a line end and is not of this form is compiled as it is written and under no options; so is
    one with letters behind the last delimiter that are not all modifiers. -/
theorem delimited_pattern_is_unwrapped :
    (∀ c ∈ delimiters, ∀ body letters : List Char, (∀ l ∈ letters, l ∈ modifiers) →
      CompiledAs (String.ofList (c :: body ++ c :: letters)) body (optionsOf letters)) ∧
    (∀ cs : List Char, cs.getLast? ≠ some '\n' → ¬ IsDelimited cs →
      CompiledAs (String.ofList cs) cs {}) ∧
    ∀ c ∈ delimiters, ∀ body letters : List Char, (∀ l ∈ letters, l.isAlpha = true) →
      (∃ l ∈ letters, l ∉ modifiers) →
        CompiledAs (String.ofList (c :: body ++ c :: letters)) (c :: body ++ c :: letters) {} := by
  refine ⟨?delimited, ?written, ?letters⟩
  case delimited =>
    intro c hc body letters hletters
    have hdelimited : delimited? (c :: body ++ c :: letters) = some (body, letters) :=
      delimited?_eq_some_iff.mpr ⟨c, hc, [], Or.inl rfl, hletters, by rw [List.append_nil]⟩
    refine compiledAs_of_handedOver ?_
    rw [handedOver, hdelimited, ← switchOn_eq_optionsOf hletters]
  case written =>
    intro cs hlast hplain
    refine compiledAs_of_handedOver (handedOver_of_delimited?_eq_none ?_)
    rw [Option.eq_none_iff_forall_ne_some]
    rintro ⟨body, letters⟩ h
    obtain ⟨c, hc, line, hline, hletters, rfl⟩ := delimited?_eq_some_iff.mp h
    rcases hline with rfl | rfl
    · exact hplain ⟨c, hc, body, letters, hletters, by rw [List.append_nil]⟩
    · refine hlast ?_
      rw [← List.cons_append, ← List.append_assoc]
      exact List.getLast?_concat
  case letters =>
    intro c hc body letters halpha hother
    refine compiledAs_of_handedOver (handedOver_of_delimited?_eq_none ?_)
    rw [Option.eq_none_iff_forall_ne_some]
    rintro ⟨body', letters'⟩ h
    obtain ⟨c', hc', line, hline, hletters, heq⟩ := delimited?_eq_some_iff.mp h
    rw [List.cons_append, List.cons_append, List.cons.injEq] at heq
    obtain ⟨rfl, htail⟩ := heq
    have hplain : ∀ l ∈ letters, l ∉ delimiters := by
      intro l hl hd
      have hnone : delimiters.any Char.isAlpha = false := by decide
      exact absurd (halpha l hl) (List.any_eq_false.mp hnone l hd)
    have hlast : c ∉ letters' ++ line :=
      not_mem_of_letters hc (fun l hl => (modifier_spec (hletters l hl)).1) hline
    have hsplit : letters = letters' ++ line :=
      after_last_eq (fun hmem => hplain c hmem hc) hlast htail
    obtain ⟨l, hl, hother⟩ := hother
    rw [hsplit, List.mem_append] at hl
    rcases hl with hl | hl
    · exact hother (hletters l hl)
    · have halpha' := halpha l (hsplit ▸ List.mem_append_right _ hl)
      rcases hline with rfl | rfl
      · cases hl
      · rw [List.mem_singleton.mp hl] at halpha'
        cases halpha'

/-- The body holds the delimiter, a modifier and a line end; and what looks like a path is a pattern
as it is written. -/
theorem delimited_pattern_is_unwrapped_slash :
    CompiledAs "/a/i\n/xsu" ['a', '/', 'i', '\n'] { dotAll := true, verbose := true } ∧
      CompiledAs "^/a/$" "^/a/$".toList {} ∧ CompiledAs "/usr/bin" "/usr/bin".toList {} := by
  obtain ⟨hdelimited, hwritten, hletters⟩ := delimited_pattern_is_unwrapped
  have hplain : ¬ IsDelimited "^/a/$".toList := by
    rintro ⟨c, hc, body, letters, -, heq⟩
    obtain ⟨rfl, -⟩ := List.cons.inj heq
    revert hc
    decide
  have hother : ∃ l ∈ ['b', 'i', 'n'], l ∉ modifiers := ⟨'b', by decide, by decide⟩
  exact ⟨hdelimited '/' (by decide) ['a', '/', 'i', '\n'] ['x', 's', 'u'] (by simp [modifiers]),
    hwritten "^/a/$".toList (by decide) hplain,
    hletters '/' (by decide) ['u', 's', 'r'] ['b', 'i', 'n'] (List.all_eq_true.mp rfl) hother⟩

end PayloadCheck.Pattern
