import Mathlib.Data.List.TakeWhile
import PayloadCheck.Check.Message
import PayloadCheck.Proofs.FieldMap

/-!
# Texts with placeholders

A text is scanned once from left to right, whatever is put into it: it falls into placeholders, each
a colon and one of the ten names where the name ends, and into characters that stand for themselves
(`Scanned`). There is one way to scan a text (`exists_scanned`, `Scanned.unique`). A failing rule
puts in what it supplies for each placeholder and leaves everything else as it is written
(`resolved_in_one_scan`), so nothing that is put in is looked through for placeholders again.
-/

namespace PayloadCheck.Check

open PayloadCheck.Rule PayloadCheck.Text

/-! ### What rules supply -/

/-- Rules that supply their first parameter, and the names under which they do. -/
def firstNames : List (String × String) :=
  [("size", "size"), ("min", "min"), ("max", "max"), ("digits", "digits"), ("before", "date"),
   ("after", "date"), ("dateformat", "format")]

/-- Rules with two bounds. -/
def boundKeys : List String := ["between", "digitsbetween"]

/-- Rules whose first parameter names another field. -/
def otherKeys : List String := ["same", "different", "requiredif"]

/-- Rules whose parameters are values. -/
def valueKeys : List String := ["in", "notin", "mimes"]

/-- Rules whose parameters name other fields. -/
def fieldKeys : List String :=
  ["requiredwith", "requiredwithall", "requiredwithout", "requiredwithoutall"]

/-- What a failing rule of a field supplies under a name: the field as it is shown, and what its
parameters are good for, if there are enough of them. -/
inductive Supplies (m : Messages) (field : String) (rule : Spec) : String → String → Prop
  | field : Supplies m field rule "attribute" (m.shownName field)
  | first {name p : String} {more : List String} (known : (rule.key, name) ∈ firstNames)
      (given : rule.parameters = p :: more) : Supplies m field rule name p
  | lower {p q : String} {more : List String} (known : rule.key ∈ boundKeys)
      (given : rule.parameters = p :: q :: more) : Supplies m field rule "min" p
  | upper {p q : String} {more : List String} (known : rule.key ∈ boundKeys)
      (given : rule.parameters = p :: q :: more) : Supplies m field rule "max" q
  | other {p : String} {more : List String} (known : rule.key ∈ otherKeys)
      (given : rule.parameters = p :: more) : Supplies m field rule "other" (m.shownName p)
  | value {p q : String} {more : List String} (known : rule.key = "requiredif")
      (given : rule.parameters = p :: q :: more) :
      Supplies m field rule "value" (joinTexts ", " (q :: more))
  | values (known : rule.key ∈ valueKeys) :
      Supplies m field rule "values" (joinTexts ", " rule.parameters)
  | fields (known : rule.key ∈ fieldKeys) :
      Supplies m field rule "values" (joinTexts ", " (rule.parameters.map m.shownName))

section

variable {key name text : String} {ps : List String} {shown : String → String}

/-! #### The table of what rules supply -/

theorem lookup_supplies_iff {supply : Supply} :
    supplies.lookup key = some supply ↔ (key, supply) ∈ supplies :=
  FieldMap.get?_eq_some_iff (by decide)

theorem first_mem_supplies : (key, Supply.first name) ∈ supplies ↔ (key, name) ∈ firstNames := by
  simp [supplies, firstNames]

theorem bounds_mem_supplies : (key, Supply.bounds) ∈ supplies ↔ key ∈ boundKeys := by
  simp [supplies, boundKeys]

theorem other_mem_supplies :
    (key, Supply.other) ∈ supplies ∨ (key, Supply.otherValue) ∈ supplies ↔ key ∈ otherKeys := by
  simp [supplies, otherKeys, or_assoc]

theorem otherValue_mem_supplies : (key, Supply.otherValue) ∈ supplies ↔ key = "requiredif" := by
  simp [supplies]

theorem values_mem_supplies : (key, Supply.values) ∈ supplies ↔ key ∈ valueKeys := by
  simp [supplies, valueKeys]

theorem fields_mem_supplies : (key, Supply.fields) ∈ supplies ↔ key ∈ fieldKeys := by
  simp [supplies, fieldKeys]

/-! #### What is put in under a name -/

theorem nodup_keys_entries (supply : Supply) :
    (supply.entries ps shown).keys.Nodup := by
  unfold Supply.entries
  split <;> simp [FieldMap.keys]

theorem lookup_entries_iff {supply : Supply} :
    (supply.entries ps shown).lookup name = some text ↔
      (name, text) ∈ supply.entries ps shown :=
  FieldMap.get?_eq_some_iff (nodup_keys_entries supply)

theorem mem_entries_first : (name, text) ∈ (Supply.first key).entries ps shown ↔
    name = key ∧ ∃ more, ps = text :: more := by
  cases ps with
  | nil => simp [Supply.entries]
  | cons p more => simp [Supply.entries, eq_comm]

theorem mem_entries_bounds : (name, text) ∈ Supply.bounds.entries ps shown ↔
    ∃ lower upper more, ps = lower :: upper :: more ∧
      (name = "min" ∧ text = lower ∨ name = "max" ∧ text = upper) := by
  match ps with
  | [] => simp [Supply.entries]
  | [p] => simp [Supply.entries]
  | lower :: upper :: more => simp [Supply.entries]

theorem mem_entries_other : (name, text) ∈ Supply.other.entries ps shown ↔
    ∃ p more, ps = p :: more ∧ name = "other" ∧ text = shown p := by
  cases ps with
  | nil => simp [Supply.entries]
  | cons p more => simp [Supply.entries]

theorem mem_entries_otherValue : (name, text) ∈ Supply.otherValue.entries ps shown ↔
    (∃ p more, ps = p :: more ∧ name = "other" ∧ text = shown p) ∨
    ∃ p q more, ps = p :: q :: more ∧ name = "value" ∧ text = joinTexts ", " (q :: more) := by
  match ps with
  | [] => simp [Supply.entries]
  | [p] => simp [Supply.entries]
  | p :: q :: more => simp [Supply.entries]

end

namespace Messages

variable {m : Messages} {field name text : String} {rule : Spec}

theorem supplied_attribute : m.supplied field rule "attribute" = some (m.shownName field) :=
  if_pos rfl

theorem supplied_iff_of_ne (h : name ≠ "attribute") :
    m.supplied field rule name = some text ↔ ∃ supply, (rule.key, supply) ∈ supplies ∧
      (name, text) ∈ supply.entries rule.parameters m.shownName := by
  simp only [supplied, if_neg h, Option.bind_eq_some_iff, lookup_supplies_iff, lookup_entries_iff]

/-- A failing rule puts in under a name what it supplies under it, and nothing else. -/
theorem supplied_eq_some_iff :
    m.supplied field rule name = some text ↔ Supplies m field rule name text := by
  constructor
  · intro h
    by_cases hname : name = "attribute"
    · subst hname
      rw [supplied_attribute] at h
      obtain rfl := Option.some.inj h
      exact .field
    obtain ⟨supply, hsupply, htext⟩ := (supplied_iff_of_ne hname).mp h
    cases supply with
    | first key =>
      obtain ⟨rfl, more, hgiven⟩ := mem_entries_first.mp htext
      exact .first (first_mem_supplies.mp hsupply) hgiven
    | bounds =>
      obtain ⟨lower, upper, more, hgiven, ⟨rfl, rfl⟩ | ⟨rfl, rfl⟩⟩ := mem_entries_bounds.mp htext
      · exact .lower (bounds_mem_supplies.mp hsupply) hgiven
      · exact .upper (bounds_mem_supplies.mp hsupply) hgiven
    | other =>
      obtain ⟨p, more, hgiven, rfl, rfl⟩ := mem_entries_other.mp htext
      exact .other (other_mem_supplies.mp (Or.inl hsupply)) hgiven
    | otherValue =>
      rcases mem_entries_otherValue.mp htext with
        ⟨p, more, hgiven, rfl, rfl⟩ | ⟨p, q, more, hgiven, rfl, rfl⟩
      · exact .other (other_mem_supplies.mp (Or.inr hsupply)) hgiven
      · exact .value (otherValue_mem_supplies.mp hsupply) hgiven
    | values =>
      obtain ⟨rfl, rfl⟩ := by simpa [Supply.entries] using htext
      exact .values (values_mem_supplies.mp hsupply)
    | fields =>
      obtain ⟨rfl, rfl⟩ := by simpa [Supply.entries] using htext
      exact .fields (fields_mem_supplies.mp hsupply)
  · intro h
    cases h with
    | field => exact supplied_attribute
    | first known given =>
      have hname : ∀ entry ∈ firstNames, entry.2 ≠ "attribute" := by decide
      exact (supplied_iff_of_ne (hname _ known)).mpr
        ⟨_, first_mem_supplies.mpr known, mem_entries_first.mpr ⟨rfl, _, given⟩⟩
    | lower known given =>
      exact (supplied_iff_of_ne (by decide)).mpr ⟨_, bounds_mem_supplies.mpr known,
        mem_entries_bounds.mpr ⟨_, _, _, given, Or.inl ⟨rfl, rfl⟩⟩⟩
    | upper known given =>
      exact (supplied_iff_of_ne (by decide)).mpr ⟨_, bounds_mem_supplies.mpr known,
        mem_entries_bounds.mpr ⟨_, _, _, given, Or.inr ⟨rfl, rfl⟩⟩⟩
    | other known given =>
      rcases other_mem_supplies.mpr known with hsupply | hsupply
      · exact (supplied_iff_of_ne (by decide)).mpr
          ⟨_, hsupply, mem_entries_other.mpr ⟨_, _, given, rfl, rfl⟩⟩
      · exact (supplied_iff_of_ne (by decide)).mpr
          ⟨_, hsupply, mem_entries_otherValue.mpr (Or.inl ⟨_, _, given, rfl, rfl⟩)⟩
    | value known given =>
      exact (supplied_iff_of_ne (by decide)).mpr ⟨_, otherValue_mem_supplies.mpr known,
        mem_entries_otherValue.mpr (Or.inr ⟨_, _, _, given, rfl, rfl⟩)⟩
    | values known =>
      exact (supplied_iff_of_ne (by decide)).mpr
        ⟨_, values_mem_supplies.mpr known, List.mem_singleton_self _⟩
    | fields known =>
      exact (supplied_iff_of_ne (by decide)).mpr
        ⟨_, fields_mem_supplies.mpr known, List.mem_singleton_self _⟩

end Messages

/-! ### Scanning a text -/

/-- A text begins with a placeholder: a colon and one of the names, behind which the text ends or goes
on with a character that belongs to no word. -/
structure OpensWith (cs : List Char) (name : String) (rest : List Char) : Prop where
  known : name ∈ placeholders
  eq : cs = ':' :: (name.toList ++ rest)
  ends : ∀ c, rest.head? = some c → isWord c = false

/-- A stretch of a text: a placeholder, or a character that stands for itself. -/
inductive Stretch where
  | slot (name : String)
  | plain (c : Char)
deriving DecidableEq, Repr

namespace Stretch

/-- A stretch as it is written. -/
def written : Stretch → List Char
  | slot name => ':' :: name.toList
  | plain c => [c]

/-- What becomes of a stretch: a placeholder gives way to what is supplied for it, if anything is. -/
def filled (supplied : String → Option String) : Stretch → List Char
  | slot name => ((supplied name).map String.toList).getD (':' :: name.toList)
  | plain c => [c]

end Stretch

/-- A text scanned from left to right: where it goes on with a placeholder, the whole of it is one
stretch, and else the next character is. -/
inductive Scanned : List Char → List Stretch → Prop
  | done : Scanned [] []
  | slot {cs rest : List Char} {name : String} {stretches : List Stretch}
      (opens : OpensWith cs name rest) (scanned : Scanned rest stretches) :
      Scanned cs (.slot name :: stretches)
  | plain {c : Char} {rest : List Char} {stretches : List Stretch}
      (closed : ∀ name after, ¬ OpensWith (c :: rest) name after) (scanned : Scanned rest stretches) :
      Scanned (c :: rest) (.plain c :: stretches)

section

variable {cs rest word : List Char} {name : String} {stretches : List Stretch}
  {supplied : String → Option String}

theorem isWord_of_placeholder (h : name ∈ placeholders) : ∀ c ∈ name.toList, isWord c = true := by
  have hall : ∀ name ∈ placeholders, name.toList.all isWord = true := by decide
  exact List.all_eq_true.mp (hall name h)

theorem takeWhile_word (hword : ∀ c ∈ word, isWord c = true)
    (hends : ∀ c, rest.head? = some c → isWord c = false) :
    (word ++ rest).takeWhile isWord = word ∧ (word ++ rest).dropWhile isWord = rest := by
  rw [List.takeWhile_append_of_pos hword, List.dropWhile_append_of_pos hword]
  cases rest with
  | nil => simp
  | cons c more => simp [hends c rfl]

theorem OpensWith.unique {other : String} {after : List Char} (h : OpensWith cs name rest)
    (hother : OpensWith cs other after) : other = name ∧ after = rest := by
  -- both names are the word behind the colon
  have hsame := h.eq.symm.trans hother.eq
  rw [List.cons.injEq, and_iff_right rfl] at hsame
  obtain ⟨hname, hrest⟩ := takeWhile_word (isWord_of_placeholder h.known) h.ends
  obtain ⟨hname', hrest'⟩ := takeWhile_word (isWord_of_placeholder hother.known) hother.ends
  rw [hsame] at hname hrest
  exact ⟨String.toList_inj.mp (hname'.symm.trans hname), hrest'.symm.trans hrest⟩

theorem OpensWith.length_lt (h : OpensWith cs name rest) : rest.length < cs.length := by
  rw [h.eq]
  simp only [List.length_cons, List.length_append]
  omega

theorem exists_scanned (cs : List Char) : ∃ stretches, Scanned cs stretches := by
  -- on the length, for a placeholder takes several characters away at once
  induction hlength : cs.length using Nat.strongRecOn generalizing cs with
  | ind n ih =>
    by_cases hopens : ∃ name rest, OpensWith cs name rest
    · obtain ⟨name, rest, hopens⟩ := hopens
      obtain ⟨stretches, hscanned⟩ := ih rest.length (hlength ▸ hopens.length_lt) rest rfl
      exact ⟨_, .slot hopens hscanned⟩
    · cases cs with
      | nil => exact ⟨[], .done⟩
      | cons c rest =>
        obtain ⟨stretches, hscanned⟩ := ih rest.length (by simp [← hlength]) rest rfl
        exact ⟨_, .plain (fun name after h => hopens ⟨name, after, h⟩) hscanned⟩

theorem Scanned.unique (h : Scanned cs stretches) {others : List Stretch}
    (hothers : Scanned cs others) : others = stretches := by
  induction h generalizing others with
  | done =>
    cases hothers with
    | done => rfl
    | slot opens _ => cases opens.eq
  | slot opens _ ih =>
    cases hothers with
    | done => cases opens.eq
    | slot opens' scanned' =>
      obtain ⟨rfl, rfl⟩ := opens.unique opens'
      rw [ih scanned']
    | plain closed _ => exact absurd opens (closed _ _)
  | plain closed _ ih =>
    cases hothers with
    | slot opens' _ => exact absurd opens' (closed _ _)
    | plain _ scanned' => rw [ih scanned']

theorem Scanned.written (h : Scanned cs stretches) : stretches.flatMap Stretch.written = cs := by
  induction h with
  | done => rfl
  | slot opens _ ih => simp [ih, opens.eq, Stretch.written]
  | plain _ _ ih => simp [ih, Stretch.written]

theorem Scanned.filled_of_closed (h : Scanned cs stretches)
    (hclosed : ∀ rest, rest <:+ cs → ∀ name after, ¬ OpensWith rest name after) :
    stretches.flatMap (Stretch.filled supplied) = cs := by
  induction h with
  | done => rfl
  | slot opens _ _ => exact absurd opens (hclosed _ List.suffix_rfl _ _)
  | plain _ _ ih =>
    rw [List.flatMap_cons, ih]
    · rfl
    · intro rest hrest
      exact hclosed rest (hrest.trans (List.suffix_cons _ _))

/-! ### Filling in a text -/

open Messages (fill fillAll)

theorem fillAll_of_pieces {first : List Char} {others : List (List Char)}
    (h : pieces ':' cs = first :: others) :
    fillAll supplied cs = first ++ others.flatMap (fill supplied) := by
  rw [fillAll, h]

theorem fillAll_append_of_not_mem (h : ':' ∉ word) (rest : List Char) :
    fillAll supplied (word ++ rest) = word ++ fillAll supplied rest := by
  obtain ⟨first, others, hpieces⟩ := List.exists_cons_of_ne_nil (pieces_ne_nil ':' rest)
  rw [fillAll_of_pieces (pieces_append_of_not_mem h hpieces), fillAll_of_pieces hpieces,
    List.append_assoc]

/-- What becomes of a colon and the word behind it, up to where the word ends. -/
theorem fillAll_colon (hword : ∀ c ∈ word, isWord c = true)
    (hends : ∀ c, rest.head? = some c → isWord c = false) :
    fillAll supplied (':' :: (word ++ rest)) =
      (if String.ofList word ∈ placeholders then
          Stretch.filled supplied (.slot (String.ofList word))
        else ':' :: word) ++ fillAll supplied rest := by
  have hcolon : ':' ∉ word := by
    intro hmem
    exact absurd (hword ':' hmem) (by decide)
  -- the word belongs to the first piece of what follows it
  obtain ⟨first, others, hpieces⟩ := List.exists_cons_of_ne_nil (pieces_ne_nil ':' rest)
  have hall : pieces ':' (':' :: (word ++ rest)) = [] :: (word ++ first) :: others := by
    rw [pieces_cons_self, pieces_append_of_not_mem hcolon hpieces]
  obtain ⟨hname, hafter⟩ := takeWhile_word hword fun c hc => hends c (head?_of_pieces hpieces hc)
  have hfill : fill supplied (word ++ first) =
      (if String.ofList word ∈ placeholders then
          Stretch.filled supplied (.slot (String.ofList word))
        else ':' :: word) ++ first := by
    simp only [fill, hname, hafter, List.contains_iff_mem, Stretch.filled, String.toList_ofList]
    split_ifs
    · cases supplied (String.ofList word) <;> rfl
    · rfl
  rw [fillAll_of_pieces hall, fillAll_of_pieces hpieces, List.nil_append, List.flatMap_cons, hfill,
    List.append_assoc]

theorem fillAll_of_opens (h : OpensWith cs name rest) :
    fillAll supplied cs = Stretch.filled supplied (.slot name) ++ fillAll supplied rest := by
  rw [h.eq, fillAll_colon (isWord_of_placeholder h.known) h.ends, String.ofList_toList,
    if_pos h.known]

theorem fillAll_of_closed {c : Char} (h : ∀ name after, ¬ OpensWith (c :: rest) name after) :
    fillAll supplied (c :: rest) = c :: fillAll supplied rest := by
  by_cases hc : c = ':'
  · subst hc
    -- the word behind the colon is no placeholder
    have hword : ∀ c ∈ rest.takeWhile isWord, isWord c = true := by
      intro c hc
      exact List.mem_takeWhile_imp hc
    have hends : ∀ c, (rest.dropWhile isWord).head? = some c → isWord c = false := by
      intro c hc
      have hnot := List.head?_dropWhile_not isWord rest
      rw [hc] at hnot
      simpa using hnot
    have hunknown : String.ofList (rest.takeWhile isWord) ∉ placeholders := by
      intro hknown
      exact h _ _ ⟨hknown, by simp, hends⟩
    have hcolon : ':' ∉ rest.takeWhile isWord := by
      intro hmem
      exact absurd (hword ':' hmem) (by decide)
    calc fillAll supplied (':' :: rest)
      _ = fillAll supplied (':' :: (rest.takeWhile isWord ++ rest.dropWhile isWord)) := by
        rw [List.takeWhile_append_dropWhile]
      _ = ':' :: (rest.takeWhile isWord ++ fillAll supplied (rest.dropWhile isWord)) := by
        rw [fillAll_colon hword hends, if_neg hunknown, List.cons_append]
      _ = ':' :: fillAll supplied rest := by
        rw [← fillAll_append_of_not_mem hcolon, List.takeWhile_append_dropWhile]
  · have hplain : ':' ∉ [c] := by simpa using Ne.symm hc
    exact fillAll_append_of_not_mem hplain rest

theorem Scanned.fillAll_eq (h : Scanned cs stretches) :
    fillAll supplied cs = stretches.flatMap (Stretch.filled supplied) := by
  induction h with
  | done => rfl
  | slot opens _ ih => rw [fillAll_of_opens opens, ih, List.flatMap_cons]
  | plain closed _ ih => rw [fillAll_of_closed closed, ih]; rfl

end

namespace Messages

theorem resolve_eq (m : Messages) (field : String) (rule : Spec) :
    m.resolve field rule = m.filled field rule <$> m.template field rule :=
  (map_eq_pure_bind ..).symm

/-- A text without a colon needs no scan. -/
theorem filled_eq (m : Messages) (field : String) (rule : Spec) (template : String) :
    m.filled field rule template =
      String.ofList (fillAll (m.supplied field rule) template.toList) := by
  unfold filled
  split
  · rfl
  · next hcolon =>
    have hnot : ':' ∉ template.toList := fun h => hcolon (List.contains_iff_mem.mpr h)
    rw [← List.append_nil template.toList, fillAll_append_of_not_mem hnot]
    simp [fillAll, pieces, piecesBy]

/-- **Filling in a text.** A text is scanned in one way, from left to right, and its stretches are all
    that is written in it. A failing rule fills it in stretch by stretch: each placeholder gives way
    to what the rule supplies under its name, for as many parameters as the rule has, or stays as it
    is written where the rule supplies nothing, and every other character is kept. What is put in
    takes no part in the scan. A text in which no placeholder begins stays as it is, and so does one
    without a colon, for which nothing is scanned. -/
theorem resolved_in_one_scan (m : Messages) (field : String) (rule : Spec) (template : String) :
    m.resolve field rule = m.filled field rule <$> m.template field rule ∧
    (∃ stretches, (∀ others, Scanned template.toList others ↔ others = stretches) ∧
      stretches.flatMap Stretch.written = template.toList ∧
      m.filled field rule template =
        String.ofList (stretches.flatMap (Stretch.filled (m.supplied field rule)))) ∧
    (∀ name text, m.supplied field rule name = some text ↔ Supplies m field rule name text) ∧
    ((∀ rest, rest <:+ template.toList → ∀ name after, ¬ OpensWith rest name after) →
      m.filled field rule template = template) ∧
    m.filled field rule template =
      String.ofList (fillAll (m.supplied field rule) template.toList) := by
  obtain ⟨stretches, hscanned⟩ := exists_scanned template.toList
  have hfilled : m.filled field rule template =
      String.ofList (stretches.flatMap (Stretch.filled (m.supplied field rule))) := by
    rw [m.filled_eq, hscanned.fillAll_eq]
  have hunique : ∀ others, Scanned template.toList others ↔ others = stretches := by
    intro others
    exact ⟨hscanned.unique, fun h => h ▸ hscanned⟩
  refine ⟨m.resolve_eq field rule, ⟨stretches, hunique, hscanned.written, hfilled⟩,
    fun name text => supplied_eq_some_iff, ?_, m.filled_eq field rule template⟩
  intro hclosed
  rw [hfilled, hscanned.filled_of_closed hclosed, String.ofList_toList]

/-- What is put in is not looked through, and a name is taken as a whole. -/
example : fillAll (fun name => if name = "max" then some ":min" else some "1")
    ":max::min:maximum".toList = ":min:1:maximum".toList := by
  decide

end Messages

end PayloadCheck.Check
