import Mathlib.Data.List.Forall2
import PayloadCheck.Presence.Statement

/-!
# The clauses of a query

A query is read as clauses: names of columns as they are given, fixed words, and values. Its text
is those clauses with every name between quotes and every value replaced by a placeholder.
Main statements: whoever reads the text of a query whose names are identifiers finds exactly the
names between the quotes (`quotedParts_countText`), and exactly the values at the placeholders,
each in the clause that it belongs to (`fill_countText`); and queries of one shape have one text
(`countText_of_sameShape`).
-/

namespace PayloadCheck.Presence

open PayloadCheck.Text

/-! ### Clauses of a query -/

/-- Characters that open neither a placeholder nor a name. -/
def Plain (cs : List Char) : Prop := '%' ∉ cs ∧ '"' ∉ cs

instance (cs : List Char) : Decidable (Plain cs) := inferInstanceAs (Decidable (_ ∧ _))

/-- A condition as a query puts it: a column, and the fixed words before and after its value. -/
structure Clause where
  column : String
  opening : String
  value : Option Bound := none
  closing : String := ""
  opening_plain : Plain opening.toList := by decide
  closing_plain : Plain closing.toList := by decide

/-- The clause of a further condition. -/
def extraClause (entry : String × String) : Clause :=
  if entry.2 = "NULL" then { column := entry.1, opening := " IS NULL" }
  else if entry.2 = "NOT_NULL" then { column := entry.1, opening := " IS NOT NULL" }
  else { column := entry.1, opening := " = ", value := some (.one entry.2) }

theorem extraClause_column (entry : String × String) : (extraClause entry).column = entry.1 := by
  unfold extraClause
  split_ifs <;> rfl

/-- The clause of the record that is left out. -/
def exclusionClause (idColumn : Option String) (id : String) : Clause :=
  { column := idName idColumn, opening := " <> ", value := some (.one id) }

/-- The clauses about the value that a query counts. -/
def mainClauses : Query → List Clause
  | .single _ column value excluded idColumn _ =>
    { column, opening := " = ", value := some (.one value) } ::
      (excluded.map (exclusionClause idColumn)).toList
  | .several _ column values _ =>
    [{ column, opening := " = ANY(", value := some (.many values), closing := ")" }]

def clausesOf (q : Query) : List Clause :=
  mainClauses q ++ (Statement.extraOf q).map extraClause

/-- The names in the statement of a query, in order. -/
def namesOf (schema : Option String) (q : Query) : List String :=
  (givenName schema).toList ++ Statement.tableOf q :: (clausesOf q).map Clause.column

/-- A name that is an identifier once the blanks around it are dropped: a letter or underscore,
and at most 62 further letters, digits and underscores. -/
def IsName (name : String) : Prop :=
  ∃ c rest, trimChars name.toList = c :: rest ∧ rest.length ≤ 62 ∧
    (isAsciiLetter c ∨ c = '_') ∧ ∀ d ∈ rest, isAsciiLetter d ∨ isAsciiDigit d ∨ d = '_'

/-! ### The text of a query -/

/-- A name between quotes, the blanks around it dropped. -/
def quotedName (name : String) : List Char := '"' :: trimChars name.toList ++ ['"']

/-- A clause with its value written by `w`. -/
def Clause.chars (w : Bound → List Char) (c : Clause) : List Char :=
  quotedName c.column ++ (c.opening.toList ++ ((c.value.map w).getD [] ++ c.closing.toList))

/-- The table with its schema, if one is given. -/
def qualifiedTable (schema : Option String) (table : String) : List Char :=
  match givenName schema with
  | some name => quotedName name ++ '.' :: quotedName table
  | none => quotedName table

/-- The text of a query with its values written by `w`. -/
def countText (w : Bound → List Char) (schema : Option String) (q : Query) : List Char :=
  "SELECT COUNT(*) AS count FROM ".toList ++ qualifiedTable schema (Statement.tableOf q) ++
    " WHERE ".toList ++ join " AND ".toList ((clausesOf q).map (Clause.chars w))

/-- The placeholder that stands for every value. -/
def placeholder (_ : Bound) : List Char := ['%', 's']

/-! ### Reading a text -/

def everySecond : List (List Char) → List (List Char)
  | _ :: second :: rest => second :: everySecond rest
  | _ => []

/-- What stands between quotes. -/
def quotedParts (cs : List Char) : List (List Char) := everySecond (pieces '"' cs)

/-- Puts values in the places of the placeholders, in order; the numbers must agree. -/
def fill : List Char → List (List Char) → Option (List Char)
  | [], [] => some []
  | [], _ :: _ => none
  | '%' :: 's' :: rest, value :: values => (value ++ ·) <$> fill rest values
  | '%' :: 's' :: _, [] => none
  | c :: rest, values => (c :: ·) <$> fill rest values

def countPlaceholders : List Char → Nat
  | [] => 0
  | '%' :: 's' :: rest => countPlaceholders rest + 1
  | _ :: rest => countPlaceholders rest

theorem fill_cons {c : Char} (h : c ≠ '%') (rest : List Char) (values : List (List Char)) :
    fill (c :: rest) values = (c :: ·) <$> fill rest values :=
  fill.eq_5 values c rest (fun _ _ _ _ hc _ => h hc) (fun _ _ hc _ => h hc)

theorem fill_append {before : List Char} (h : '%' ∉ before) (rest : List Char)
    (values : List (List Char)) :
    fill (before ++ rest) values = (before ++ ·) <$> fill rest values := by
  induction before with
  | nil => simp
  | cons c more ih =>
    simp only [List.mem_cons, not_or] at h
    rw [List.cons_append, fill_cons (Ne.symm h.1), ih h.2]
    cases fill rest values <;> rfl

/-- A text that can be filled with values has as many placeholders. -/
theorem countPlaceholders_of_fill {cs filled : List Char} {values : List (List Char)}
    (h : fill cs values = some filled) : countPlaceholders cs = values.length := by
  fun_induction fill cs values generalizing filled with
  | case1 => rfl
  | case2 => cases h
  | case3 rest value values ih =>
    obtain ⟨tail, htail, -⟩ := Option.map_eq_some_iff.mp h
    simp [countPlaceholders, ih htail]
  | case4 => cases h
  | case5 c rest values hfull hempty ih =>
    obtain ⟨tail, htail, -⟩ := Option.map_eq_some_iff.mp h
    have hplain : ∀ more, c = '%' → rest = 's' :: more → False := by
      intro more hc hrest
      cases values with
      | nil => exact hempty more rfl hc hrest
      | cons value others => exact hfull more value others rfl hc hrest
    rw [countPlaceholders.eq_3 c rest hplain, ih htail]

/-! ### Reading the quotes -/

theorem quotedParts_cons {c : Char} (h : c ≠ '"') (rest : List Char) :
    quotedParts (c :: rest) = quotedParts rest := by
  unfold quotedParts pieces
  have hc : (c == '"') = false := by simpa using h
  cases hrest : piecesBy (· == '"') rest with
  | nil => exact absurd hrest (piecesBy_ne_nil _ rest)
  | cons first others => cases others <;> simp [piecesBy, hc, hrest, everySecond]

theorem quotedParts_append {before : List Char} (h : '"' ∉ before) (rest : List Char) :
    quotedParts (before ++ rest) = quotedParts rest := by
  induction before with
  | nil => rfl
  | cons c more ih =>
    simp only [List.mem_cons, not_or] at h
    rw [List.cons_append, quotedParts_cons (Ne.symm h.1), ih h.2]

theorem quotedParts_of_not_mem {cs : List Char} (h : '"' ∉ cs) : quotedParts cs = [] := by
  simp [quotedParts, pieces_of_not_mem h, everySecond]

theorem quotedParts_quotedName {name : String} (h : '"' ∉ trimChars name.toList)
    (rest : List Char) :
    quotedParts (quotedName name ++ rest) = trimChars name.toList :: quotedParts rest := by
  have hshape : quotedName name ++ rest = [] ++ '"' :: (trimChars name.toList ++ '"' :: rest) := by
    simp [quotedName]
  rw [hshape, quotedParts, pieces_append_sep List.not_mem_nil, pieces_append_sep h]
  rfl

/-! ### Reading a text back -/

theorem IsName.plain {name : String} (h : IsName name) : Plain (trimChars name.toList) := by
  obtain ⟨c, rest, hcs, -, hc, hrest⟩ := h
  have hsign : ∀ d, d = '%' ∨ d = '"' →
      ¬ (isAsciiLetter d ∨ isAsciiDigit d ∨ d = '_') := by
    rintro d (rfl | rfl) <;> decide
  have hall : ∀ d ∈ c :: rest, isAsciiLetter d ∨ isAsciiDigit d ∨ d = '_' := by
    intro d hd
    rcases List.mem_cons.mp hd with rfl | hd
    · exact hc.imp_right Or.inr
    · exact hrest d hd
  rw [hcs]
  exact ⟨fun h => hsign _ (Or.inl rfl) (hall _ h), fun h => hsign _ (Or.inr rfl) (hall _ h)⟩

theorem IsName.percent_not_mem {name : String} (h : IsName name) : '%' ∉ quotedName name := by
  simpa [quotedName] using h.plain.1

theorem quotedParts_name {name : String} (h : IsName name) (rest : List Char) :
    quotedParts (quotedName name ++ rest) = trimChars name.toList :: quotedParts rest :=
  quotedParts_quotedName h.plain.2 rest

section

variable {schema : Option String} {q : Query} {clauses : List Clause}

/-- Filling the text of a clause uses up its own value and no other. -/
theorem fill_clause {c : Clause} (h : IsName c.column) (w : Bound → List Char)
    (rest : List Char) (values : List (List Char)) :
    fill (c.chars placeholder ++ rest) ((c.value.map w).toList ++ values) =
      (c.chars w ++ ·) <$> fill rest values := by
  unfold Clause.chars
  simp only [List.append_assoc]
  rw [fill_append h.percent_not_mem, fill_append c.opening_plain.1]
  have hclose := fill_append c.closing_plain.1 rest values
  cases c.value with
  | none =>
    simp only [Option.map_none, Option.toList_none, Option.getD_none, List.nil_append]
    rw [hclose]
    cases fill rest values <;> simp
  | some v =>
    simp only [Option.map_some, Option.toList_some, Option.getD_some, placeholder,
      List.cons_append, List.nil_append, fill]
    rw [hclose]
    cases fill rest values <;> simp

theorem quotedParts_clause {c : Clause} (h : IsName c.column) (rest : List Char) :
    quotedParts (c.chars placeholder ++ rest) = trimChars c.column.toList :: quotedParts rest := by
  have hmark : '"' ∉ (c.value.map placeholder).getD [] := by
    cases c.value <;> simp [placeholder]
  unfold Clause.chars
  simp only [List.append_assoc]
  rw [quotedParts_name h, quotedParts_append c.opening_plain.2, quotedParts_append hmark,
    quotedParts_append c.closing_plain.2]

theorem values_cons (c : Clause) (rest : List Clause) (w : Bound → List Char) :
    ((c :: rest).filterMap Clause.value).map w =
      (c.value.map w).toList ++ (rest.filterMap Clause.value).map w := by
  cases h : c.value <;> simp [h]

theorem fill_clauses (h : ∀ c ∈ clauses, IsName c.column) (w : Bound → List Char) :
    fill (join " AND ".toList (clauses.map (Clause.chars placeholder)))
        ((clauses.filterMap Clause.value).map w) =
      some (join " AND ".toList (clauses.map (Clause.chars w))) := by
  induction clauses with
  | nil => rfl
  | cons c rest ih =>
    have hc := h c (List.mem_cons_self ..)
    have hrest := ih fun d hd => h d (List.mem_cons_of_mem _ hd)
    rw [values_cons]
    cases rest with
    | nil => simpa [join, fill] using fill_clause hc w [] []
    | cons d more =>
      -- the words between two clauses hold no placeholder: filling passes over them
      simp only [List.map_cons, join, List.append_assoc] at hrest ⊢
      rw [fill_clause hc, fill_append (by decide), hrest]
      rfl

theorem quotedParts_clauses (h : ∀ c ∈ clauses, IsName c.column) :
    quotedParts (join " AND ".toList (clauses.map (Clause.chars placeholder))) =
      clauses.map fun c => trimChars c.column.toList := by
  induction clauses with
  | nil => rfl
  | cons c rest ih =>
    have hc := h c (List.mem_cons_self ..)
    have hrest := ih fun d hd => h d (List.mem_cons_of_mem _ hd)
    cases rest with
    | nil => simpa [join, quotedParts_of_not_mem] using quotedParts_clause hc []
    | cons d more =>
      simp only [List.map_cons, join, List.append_assoc] at hrest ⊢
      rw [quotedParts_clause hc, quotedParts_append (by decide), hrest]

theorem percent_not_mem_qualifiedTable {table : String}
    (hschema : ∀ name ∈ givenName schema, IsName name) (htable : IsName table) :
    '%' ∉ qualifiedTable schema table := by
  unfold qualifiedTable
  cases h : givenName schema with
  | none => exact htable.percent_not_mem
  | some name =>
    have hname := (hschema name h).percent_not_mem
    simp [hname, htable.percent_not_mem]

theorem quotedParts_qualifiedTable {table : String}
    (hschema : ∀ name ∈ givenName schema, IsName name) (htable : IsName table)
    (rest : List Char) :
    quotedParts (qualifiedTable schema table ++ rest) =
      ((givenName schema).toList ++ [table]).map (fun name => trimChars name.toList) ++
        quotedParts rest := by
  unfold qualifiedTable
  cases h : givenName schema with
  | none => simpa using quotedParts_name htable rest
  | some name =>
    simp only [List.append_assoc, List.cons_append]
    rw [quotedParts_name (hschema name h), quotedParts_cons (by decide), quotedParts_name htable]
    rfl

theorem isName_parts (h : ∀ name ∈ namesOf schema q, IsName name) :
    (∀ name ∈ givenName schema, IsName name) ∧ IsName (Statement.tableOf q) ∧
      ∀ c ∈ clausesOf q, IsName c.column := by
  refine ⟨?_, ?_, ?_⟩
  · intro name hname
    exact h name (List.mem_append_left _ (Option.mem_toList.mpr hname))
  · exact h _ (List.mem_append_right _ (List.mem_cons_self ..))
  · intro c hc
    have hcolumn := List.mem_map_of_mem (f := Clause.column) hc
    exact h _ (List.mem_append_right _ (List.mem_cons_of_mem _ hcolumn))

/-- Between the quotes of a text stand the names of its query, and nothing else. -/
theorem quotedParts_countText (h : ∀ name ∈ namesOf schema q, IsName name) :
    quotedParts (countText placeholder schema q) =
      (namesOf schema q).map fun name => trimChars name.toList := by
  obtain ⟨hschema, htable, hcolumns⟩ := isName_parts h
  unfold countText
  simp only [List.append_assoc]
  rw [quotedParts_append (by decide), quotedParts_qualifiedTable hschema htable,
    quotedParts_append (by decide), quotedParts_clauses hcolumns]
  simp [namesOf]

/-- The values of a query, put at the placeholders in their order, stand each in its clause. -/
theorem fill_countText (h : ∀ name ∈ namesOf schema q, IsName name) (w : Bound → List Char) :
    fill (countText placeholder schema q) (((clausesOf q).filterMap Clause.value).map w) =
      some (countText w schema q) := by
  obtain ⟨hschema, htable, hcolumns⟩ := isName_parts h
  unfold countText
  simp only [List.append_assoc]
  rw [fill_append (by decide),
    fill_append (percent_not_mem_qualifiedTable hschema htable),
    fill_append (by decide), fill_clauses hcolumns]
  rfl

end

/-! ### The shape of a query -/

/-- A further condition on the same column: it asks for the same, or both ask for a value. -/
def SameExtra (a b : String × String) : Prop :=
  a.1 = b.1 ∧ (a.2 = b.2 ∨
    (a.2 ≠ "NULL" ∧ a.2 ≠ "NOT_NULL") ∧ (b.2 ≠ "NULL" ∧ b.2 ≠ "NOT_NULL"))

/-- Queries that differ at most in their values: the value or values counted, the id that is left
out, and values of further conditions. -/
inductive SameShape : Query → Query → Prop
  | single {table column : String} (value value' : String) {excluded excluded' : Option String}
      {idColumn : Option String} {extra extra' : FieldMap String}
      (hexcluded : excluded.isSome = excluded'.isSome)
      (hextra : List.Forall₂ SameExtra extra extra') :
      SameShape (.single table column value excluded idColumn extra)
        (.single table column value' excluded' idColumn extra')
  | several {table column : String} (values values' : List String)
      {extra extra' : FieldMap String} (hextra : List.Forall₂ SameExtra extra extra') :
      SameShape (.several table column values extra) (.several table column values' extra')

theorem extraClause_chars {a b : String × String} (h : SameExtra a b) :
    (extraClause a).chars placeholder = (extraClause b).chars placeholder := by
  obtain ⟨column, expected⟩ := a
  obtain ⟨column', expected'⟩ := b
  obtain ⟨rfl, hsame⟩ := h
  rcases hsame with hsame | ⟨⟨hnull, hnot⟩, hnull', hnot'⟩
  · rw [show expected = expected' from hsame]
  · unfold extraClause
    rw [if_neg hnull, if_neg hnot, if_neg hnull', if_neg hnot']
    rfl

theorem extraClauses_chars {extra extra' : FieldMap String}
    (h : List.Forall₂ SameExtra extra extra') :
    (extra.map extraClause).map (Clause.chars placeholder) =
      (extra'.map extraClause).map (Clause.chars placeholder) := by
  induction h with
  | nil => rfl
  | cons hfirst _ ih => simpa [extraClause_chars hfirst] using ih

/-- Queries of one shape have one text. -/
theorem countText_of_sameShape {q q' : Query} (h : SameShape q q') (schema : Option String) :
    countText placeholder schema q = countText placeholder schema q' := by
  have hclauses : (clausesOf q).map (Clause.chars placeholder) =
      (clausesOf q').map (Clause.chars placeholder) := by
    cases h with
    | @single table column value value' excluded excluded' idColumn extra extra' hexcluded hextra =>
      have hmain : (excluded.map (exclusionClause idColumn)).toList.map (Clause.chars placeholder) =
          (excluded'.map (exclusionClause idColumn)).toList.map (Clause.chars placeholder) := by
        cases excluded <;> cases excluded' <;> first | rfl | cases hexcluded
      simpa [clausesOf, mainClauses, Statement.extraOf, hmain, Clause.chars, placeholder] using
        extraClauses_chars hextra
    | several values values' hextra =>
      simpa [clausesOf, mainClauses, Statement.extraOf, Clause.chars, placeholder] using
        extraClauses_chars hextra
  have htable : Statement.tableOf q = Statement.tableOf q' := by
    cases h <;> rfl
  unfold countText
  rw [hclauses, htable]

end PayloadCheck.Presence
