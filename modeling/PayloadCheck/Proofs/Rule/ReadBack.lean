import PayloadCheck.Proofs.Rule.Identifier
import PayloadCheck.Proofs.Rule.Spelling

/-!
# Reading back the text of a rule

The text of a specification is its readable name and, behind a colon, its parameters with commas
between them. The readable name puts an underscore before every capital but the first and writes all
letters small, and the identifier of such a name is the one it was made from. Parameters that need
no quotes are the fields of the row that they are written as, and none of them is too long to be
read, since each was read once. So the text of a rule is read as that rule again
(`text_is_read_back`).
-/

namespace PayloadCheck.Rule

open PayloadCheck.Text

variable {cs : List Char}

/-! ### How long fields are -/

namespace Row

namespace Reading

variable {r r' : Reading} {c : Char}

/-- A reader that has counted the characters of its field, and holds no field that is too long. -/
structure Bounded (r : Reading) : Prop where
  size_eq : r.size = r.current.length
  current_le : r.current.length ≤ fieldLimit
  fields_le : ∀ f ∈ r.fields, f.length ≤ fieldLimit

theorem Bounded.close (h : r.Bounded) (s : State) : (r.close s).Bounded where
  size_eq := rfl
  current_le := Nat.zero_le _
  fields_le := by
    refine List.forall_mem_cons.mpr ⟨?_, h.fields_le⟩
    rw [List.length_reverse]
    exact h.current_le

theorem Bounded.push (h : r.Bounded) {s : State} (hpush : r.push s c = .ok r') : r'.Bounded := by
  unfold Reading.push at hpush
  split at hpush
  · cases hpush
  next hroom =>
  cases hpush
  have hsize := h.size_eq
  exact ⟨by simp [hsize], by simp only [List.length_cons]; omega, h.fields_le⟩

theorem Bounded.step (h : r.Bounded) (hstep : r.step c = .ok r') : r'.Bounded := by
  rcases step_cases hstep with ⟨s, rfl⟩ | ⟨s, rfl⟩ | ⟨s, hpush, -⟩
  · exact ⟨h.size_eq, h.current_le, h.fields_le⟩
  · exact h.close s
  · exact h.push hpush

theorem Bounded.foldlM (h : r.Bounded) (hread : cs.foldlM Reading.step r = .ok r') : r'.Bounded := by
  induction cs generalizing r with
  | nil =>
    cases hread
    exact h
  | cons c rest ih =>
    obtain ⟨s, hstep, hrest⟩ := foldlM_cons_eq_ok hread
    exact ih (h.step hstep) hrest

theorem Bounded.finish (h : r.Bounded) : ∀ f ∈ r.finish, f.length ≤ fieldLimit := by
  intro f hf
  unfold Reading.finish at hf
  split at hf
  · exact h.fields_le f (List.mem_reverse.mp hf)
  · exact h.fields_le f (List.mem_reverse.mp hf)
  · exact (h.close .rowEnd).fields_le f (List.mem_reverse.mp hf)

end Reading

theorem length_le_of_read {fields : List (List Char)} (h : read cs = .ok fields) :
    ∀ f ∈ fields, f.length ≤ fieldLimit := by
  obtain ⟨r, hr, rfl⟩ := read_eq_ok_iff.mp h
  have hstart : Reading.Bounded ⟨.rowStart, [], [], 0⟩ := ⟨rfl, Nat.zero_le _, by simp⟩
  exact (hstart.foldlM hr).finish

/-- Bare fields with commas between them are written as they stand. -/
theorem writesFields_join {fields : List (List Char)} (hne : fields ≠ [])
    (hbare : ∀ f ∈ fields, IsBare f) : WritesFields fields (join [','] fields) := by
  match fields with
  | [f] => exact .last (.bare (hbare f (List.mem_singleton_self f)))
  | f :: g :: rest =>
    obtain ⟨hf, hrest⟩ := List.forall_mem_cons.mp hbare
    have hmore := writesFields_join (List.cons_ne_nil g rest) hrest
    rw [join, List.append_assoc]
    exact .more (.bare hf) hmore

end Row

/-! ### Names of tokens -/

/-- The part of a token that names the rule: what stands before the first colon. -/
def namePart (token : String) : String := String.ofList (token.toList.takeWhile (· != ':'))

theorem namePart_spec (token : String) : ':' ∉ (namePart token).toList ∧
    (token = namePart token ∨ ∃ t, token = namePart token ++ ":" ++ t) := by
  have hchars : (namePart token).toList = token.toList.takeWhile (· != ':') := String.toList_ofList
  have htoken := List.takeWhile_append_dropWhile (p := (· != ':')) (l := token.toList)
  refine ⟨?_, ?_⟩
  · rw [hchars]
    intro hmem
    simpa using List.mem_takeWhile_imp hmem
  · cases hdrop : token.toList.dropWhile (· != ':') with
    | nil =>
      left
      rw [hdrop, List.append_nil, ← hchars] at htoken
      exact (String.toList_inj.mp htoken).symm
    | cons c t =>
      have hc : c = ':' := by
        have hhead := List.head?_dropWhile_not (· != ':') token.toList
        simpa [hdrop] using hhead
      right
      refine ⟨String.ofList t, ?_⟩
      rw [hdrop, hc, ← hchars] at htoken
      simp [← String.toList_inj, ← htoken]

variable {token : String} {rule : Spec}

theorem name_of_token (hread : readToken token = .ok (some rule)) :
    rule.name = identifier (namePart token) := by
  obtain ⟨hcolon, htoken⟩ := namePart_spec token
  exact name_of_readToken hcolon htoken hread

theorem isIdentifier_of_token (hread : readToken token = .ok (some rule))
    (hascii : IsAscii (namePart token)) : IsIdentifier rule.name.toList := by
  rw [name_of_token hread, identifier, String.toList_ofList]
  exact isIdentifier_identifierChars hascii

/-- A name whose parameters are taken whole folds to the name of the rule on patterns. -/
theorem fold_of_takesWhole {name : String} (hascii : IsAscii name)
    (hwhole : takesWhole name.toList = true) : fold name = "regex" := by
  have hlower := takesWhole_iff.mp hwhole
  have htrim : ∀ c ∈ trimChars name.toList, c.toNat < 128 := fun c hc =>
    hascii c (mem_of_mem_trimChars hc)
  rw [lowerAfter_eq_map htrim] at hlower
  have hword : ∀ c ∈ trimChars name.toList, isWordGap c = false := by
    intro c hc
    have hmem : c.toLower ∈ "regex".toList := by
      rw [← hlower]
      exact List.mem_map_of_mem hc
    have hnone : "regex".toList.all (!isWordGap ·) = true := by decide
    rw [← isWordGap_toLower (htrim c hc)]
    simpa using List.all_eq_true.mp hnone _ hmem
  rw [fold_eq_ofList, foldChars, filter_eq_trimChars hword, hlower, String.ofList_toList]

/-! ### Texts of specifications -/

theorem name_ne_of_readToken (hread : readToken token = .ok (some rule)) : rule.name ≠ "" := by
  have hname : ∀ {name : List Char} {ps : List String},
      (do
        if (identifierChars name).isEmpty then
          throw (.malformedRule token "Rule token has no rule name")
        return some ⟨String.ofList (identifierChars name), ps⟩ : Except Fault (Option Spec)) =
        .ok (some rule) → rule.name ≠ "" := by
    intro name ps hrule
    split at hrule
    · cases hrule
    next hne =>
    cases hrule
    simpa [String.ofList_eq_empty_iff] using hne
  unfold readToken at hread
  split at hread
  · cases hread
  cases hcut : cut? ':' token.toList with
  | none =>
    rw [hcut] at hread
    exact hname hread
  | some parts =>
    rw [hcut] at hread
    obtain ⟨ps, -, hrule⟩ := Fault.bind_eq_ok_iff.mp hread
    exact hname hrule

/-- A name that no colon follows is a rule without parameters. -/
theorem readToken_of_name {name : String} (hcolon : ':' ∉ name.toList)
    (hname : identifier name ≠ "") :
    readToken name = .ok (some ⟨identifier name, []⟩) := by
  obtain ⟨c, hc, hgap⟩ := (identifier_ne_iff name).mp hname
  have hblank : allBlank name = false := by
    rw [Bool.eq_false_iff]
    intro hblank
    simp [isWordGap, List.all_eq_true.mp hblank c hc] at hgap
  have hid : (identifierChars name.toList).isEmpty = false := by
    simpa [identifier, String.ofList_eq_empty_iff] using hname
  unfold readToken
  rw [hblank, cut?_of_not_mem hcolon]
  simp [hid, identifier, bind, Except.bind, pure, Except.pure]

theorem colon_mem_fold_iff {name : String} (h : IsAscii name) :
    ':' ∈ (fold name).toList ↔ ':' ∈ name.toList := by
  have hcolon : ∀ {c : Char}, c.toNat < 128 → (c.toLower = ':' ↔ c = ':') := fun hc =>
    of_forall_lt (p := fun c => c.toLower = ':' ↔ c = ':') (by decide) hc
  have hgap : isWordGap ':' = false := rfl
  rw [fold_eq_ofList, String.toList_ofList, foldChars, List.mem_map]
  constructor
  · rintro ⟨c, hc, hlower⟩
    have hmem := (List.mem_filter.mp hc).1
    rwa [(hcolon (h c hmem)).mp hlower] at hmem
  · intro hmem
    exact ⟨':', List.mem_filter.mpr ⟨hmem, by rw [hgap]; rfl⟩, rfl⟩

/-- What is known of the name of a rule that was read from a token with a plain name. -/
structure Named (token : String) (rule : Spec) : Prop where
  identifier_readable : identifier rule.readable = rule.name
  name_ne : rule.name ≠ ""
  isAscii_readable : IsAscii rule.readable
  fold_readable : fold rule.readable = fold (namePart token)
  key_eq : rule.key = fold (namePart token)
  colon_not_mem : ':' ∉ rule.readable.toList

theorem named_of_token (hread : readToken token = .ok (some rule))
    (hascii : IsAscii (namePart token)) : Named token rule := by
  have hid := isIdentifier_of_token hread hascii
  have hname : IsAscii rule.name := fun c hc => (hid.plain c hc).1
  have hfoldName : fold rule.name = fold (namePart token) := by
    rw [name_of_token hread, fold_identifier hascii]
  have hfold : fold rule.readable = fold (namePart token) := (fold_readable hname).trans hfoldName
  have hreadable : IsAscii rule.readable := isAscii_readable hname
  have hkey : rule.key = fold (namePart token) := (key_eq_fold hname).trans hfoldName
  refine ⟨identifier_readable hid, name_ne_of_readToken hread, hreadable, hfold, hkey, ?_⟩
  rw [← colon_mem_fold_iff hreadable, hfold, colon_mem_fold_iff hascii]
  exact (namePart_spec token).1

theorem text_of_no_parameters (hps : rule.parameters = []) : rule.text = rule.readable := by
  simp [Spec.text, hps]

theorem text_of_parameters (hps : rule.parameters ≠ []) :
    rule.text = rule.readable ++ ":" ++ joinTexts "," rule.parameters := by
  simp [Spec.text, hps]

/-- Whatever is read from the text of a rule has the name of that rule. -/
theorem Named.name_of_text (h : Named token rule) {again : Spec}
    (hread : readToken rule.text = .ok (some again)) : again.name = rule.name := by
  have htext : rule.text = rule.readable ∨ ∃ t, rule.text = rule.readable ++ ":" ++ t := by
    by_cases hps : rule.parameters = []
    · exact Or.inl (text_of_no_parameters hps)
    · exact Or.inr ⟨_, text_of_parameters hps⟩
  rw [name_of_readToken h.colon_not_mem htext hread, h.identifier_readable]

theorem joinTexts_ne {ps : List String} (hne : ps ≠ []) (hone : ps ≠ [""]) :
    (joinTexts "," ps).toList ≠ [] := by
  match ps with
  | [p] => simpa [joinTexts, join] using hone
  | p :: q :: rest => simp [joinTexts, join]

/-- Parameters that are not taken whole are the fields of a row. -/
theorem length_le_of_readParameters {name text : List Char} {ps : List String}
    (hwhole : takesWhole name = false) (hread : readParameters name text = .ok ps) :
    ∀ p ∈ ps, p.length ≤ Row.fieldLimit := by
  simp only [readParameters, hwhole, Bool.false_eq_true, if_false] at hread
  cases hrow : Row.read text with
  | error fault =>
    rw [hrow] at hread
    cases hread
  | ok fields =>
    rw [hrow] at hread
    cases hread
    intro p hp
    obtain ⟨f, hf, rfl⟩ := List.mem_map.mp hp
    rw [String.length_ofList]
    exact Row.length_le_of_read hrow f hf

theorem takesWhole_of_fold_ne {name : String} (hascii : IsAscii name)
    (hfold : fold name ≠ "regex") : takesWhole name.toList = false :=
  Bool.eq_false_iff.mpr fun hwhole => hfold (fold_of_takesWhole hascii hwhole)

theorem lower_trim_ne {name : String} (hwhole : takesWhole name.toList = false) :
    lower (trim name) ≠ "regex" :=
  ne_of_beq_false hwhole

theorem length_le_of_token (hread : readToken token = .ok (some rule))
    (hascii : IsAscii (namePart token)) (hfold : fold (namePart token) ≠ "regex") :
    ∀ p ∈ rule.parameters, p.length ≤ Row.fieldLimit := by
  rcases readToken_eq_some hread with ⟨-, rfl⟩ | ⟨name, text, ps, hcut, hps, rfl⟩
  · exact fun p hp => nomatch hp
  · have hname : name = (namePart token).toList := by
      obtain ⟨hchars, hcolon⟩ := cut?_eq_some hcut
      have hbefore : ∀ c ∈ name, (c != ':') = true := by
        intro c hc
        rw [bne_iff_ne]
        rintro rfl
        exact hcolon hc
      rw [namePart, String.toList_ofList, hchars, List.takeWhile_append_of_pos hbefore]
      simp
    rw [hname] at hps
    exact length_le_of_readParameters (takesWhole_of_fold_ne hascii hfold) hps

/-- **The text of a rule is read as that rule**, unless its key is that of a pattern, a parameter
needs quotes, or the only parameter is empty. In any case the readable name has the name of the rule
as its identifier, so rules of different names never share a readable name, and a rule read from
the text has the readable name of the first. -/
theorem text_is_read_back (hread : readToken token = .ok (some rule))
    (hascii : IsAscii (namePart token)) :
    (rule.key ≠ "regex" → (∀ p ∈ rule.parameters, Row.IsBare p.toList) → rule.parameters ≠ [""] →
        readToken rule.text = .ok (some rule)) ∧
      identifier rule.readable = rule.name ∧
      (∀ {token' : String} {rule' : Spec}, readToken token' = .ok (some rule') →
        IsAscii (namePart token') → rule'.readable = rule.readable → rule'.name = rule.name) ∧
      ∀ again, readToken rule.text = .ok (some again) → again.readable = rule.readable := by
  have hnamed := named_of_token hread hascii
  refine ⟨fun hkey hbare hone => ?_, hnamed.identifier_readable, ?_, ?_⟩
  · have hname : rule = ⟨identifier rule.readable, rule.parameters⟩ := by
      rw [hnamed.identifier_readable]
    have hne : identifier rule.readable ≠ "" := by
      rw [hnamed.identifier_readable]
      exact hnamed.name_ne
    rw [hnamed.key_eq] at hkey
    by_cases hps : rule.parameters = []
    · rw [text_of_no_parameters hps, readToken_of_name hnamed.colon_not_mem hne, ← hps, ← hname]
    · have hrow : Row.Written (rule.parameters.map String.toList)
          (joinTexts "," rule.parameters).toList := by
        refine ⟨?_, joinTexts_ne hps hone⟩
        rw [joinTexts, String.toList_ofList]
        exact Row.writesFields_join (by simpa using hps) (by simpa using hbare)
      have hfold : fold rule.readable ≠ "regex" := by
        rw [hnamed.fold_readable]
        exact hkey
      have htrimmed : lower (trim rule.readable) ≠ "regex" :=
        lower_trim_ne (takesWhole_of_fold_ne hnamed.isAscii_readable hfold)
      have hwrites :
          WritesParameters rule.readable rule.parameters (joinTexts "," rule.parameters) :=
        .row htrimmed hrow (length_le_of_token hread hascii hkey)
      rw [text_of_parameters hps, readToken_of_writes hnamed.colon_not_mem hne hwrites, ← hname]
  · intro token' rule' hread' hascii' hsame
    rw [← (named_of_token hread' hascii').identifier_readable, hsame, hnamed.identifier_readable]
  · intro again hagain
    rw [Spec.readable, hnamed.name_of_text hagain, ← Spec.readable]

/-- An acronym, a digit and words behind three kinds of gaps, with a quote within a parameter and an
empty parameter. -/
theorem text_is_read_back_acronym :
    readToken "XML-http_2 Ab:x,y\"z," = .ok (some ⟨"XMLHttp2Ab", ["x", "y\"z", ""]⟩) ∧
      Spec.text ⟨"XMLHttp2Ab", ["x", "y\"z", ""]⟩ = "x_m_l_http2_ab:x,y\"z," ∧
      readToken "x_m_l_http2_ab:x,y\"z," = .ok (some ⟨"XMLHttp2Ab", ["x", "y\"z", ""]⟩) := by
  have hbare : ∀ p ∈ ["x", "y\"z", ""], Row.IsBare p.toList := by
    intro p hp
    simp only [List.mem_cons, List.not_mem_nil, or_false] at hp
    rcases hp with rfl | rfl | rfl <;> exact ⟨by simp [Row.isLineEnd], by simp⟩
  have hrow : Row.Written (["x", "y\"z", ""].map String.toList) "x,y\"z,".toList :=
    ⟨Row.writesFields_join (by simp) (by simpa using hbare), by simp⟩
  have hread : readToken "XML-http_2 Ab:x,y\"z," =
      .ok (some ⟨"XMLHttp2Ab", ["x", "y\"z", ""]⟩) :=
    @readToken_of_writes "XML-http_2 Ab" (by decide) (by decide) _ _
      (.row (by decide) hrow (by decide))
  have hkey : Spec.key ⟨"XMLHttp2Ab", ["x", "y\"z", ""]⟩ ≠ "regex" := by
    have hsmall : key "XMLHttp2Ab" = "xmlhttp2ab" := key_of_chars rfl
    rw [Spec.key, hsmall]
    decide
  have htext : Spec.text ⟨"XMLHttp2Ab", ["x", "y\"z", ""]⟩ = "x_m_l_http2_ab:x,y\"z," := by decide
  have hascii : IsAscii (namePart "XML-http_2 Ab:x,y\"z,") := isAscii_of_all (by decide)
  refine ⟨hread, htext, ?_⟩
  rw [← htext]
  exact (text_is_read_back hread hascii).1 hkey hbare (by decide)

end PayloadCheck.Rule
