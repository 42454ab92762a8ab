import PayloadCheck.Presence.Database
import PayloadCheck.Proofs.Presence.Clauses

/-!
# What a statement says

Writing the statement of a query reads its names one after another and stops at the first that is
no identifier. Hence a verifier over a database refuses a query with such a name and carries out
nothing; else it carries out one statement, and the text and the bound values of that statement
are those of the clauses of the query (`verifier_reply_cases`).
-/

namespace PayloadCheck.Presence

open PayloadCheck.Text

/-! ### Readings -/

section

variable {α β : Type} {names more : List String} {good : α → Prop} {good' : β → Prop}

/-- How a reading of `names` ends: with a result that satisfies `good` if all of them are
identifiers, and else with the fault of a rule. -/
def Reads (names : List String) (good : α → Prop) : Except Fault α → Prop
  | .ok a => (∀ name ∈ names, IsName name) ∧ good a
  | .error fault =>
    (∃ detail, fault = .malformedRule "presence" detail) ∧ ∃ name ∈ names, ¬ IsName name

theorem Reads.pure {a : α} (h : good a) : Reads [] good (Pure.pure a) :=
  ⟨fun _ hname => absurd hname List.not_mem_nil, h⟩

/-- One reading after another reads the names of both. -/
theorem Reads.bind {step : Except Fault α} {next : α → Except Fault β}
    (hstep : Reads names good step) (hnext : ∀ a, good a → Reads more good' (next a)) :
    Reads (names ++ more) good' (step >>= next) := by
  cases step with
  | error fault =>
    obtain ⟨hfault, name, hmem, hname⟩ := hstep
    exact ⟨hfault, name, List.mem_append_left _ hmem, hname⟩
  | ok a =>
    obtain ⟨hall, ha⟩ := hstep
    have hrest := hnext a ha
    change Reads (names ++ more) good' (next a)
    cases h : next a with
    | error fault =>
      rw [h] at hrest
      obtain ⟨hfault, name, hmem, hname⟩ := hrest
      exact ⟨hfault, name, List.mem_append_right _ hmem, hname⟩
    | ok b =>
      rw [h] at hrest
      refine ⟨?_, hrest.2⟩
      intro name hmem
      rcases List.mem_append.mp hmem with hmem | hmem
      · exact hall name hmem
      · exact hrest.1 name hmem

theorem Reads.map {step : Except Fault α} {f : α → β} (hstep : Reads names good step)
    (hf : ∀ a, good a → good' (f a)) : Reads names good' (step >>= fun a => Pure.pure (f a)) := by
  have h := hstep.bind fun a ha => Reads.pure (hf a ha)
  rwa [List.append_nil] at h

/-- The order of the names does not matter. -/
theorem Reads.of_mem_iff {step : Except Fault α} (hstep : Reads names good step)
    (hnames : ∀ name, name ∈ names ↔ name ∈ more) : Reads more good step := by
  cases step with
  | error fault =>
    obtain ⟨hfault, name, hmem, hname⟩ := hstep
    exact ⟨hfault, name, (hnames name).mp hmem, hname⟩
  | ok a => exact ⟨fun name hmem => hstep.1 name ((hnames name).mpr hmem), hstep.2⟩

end

/-! ### Reading names -/

theorem isName_iff {name : String} :
    IsName name ↔ hasIdentifierForm (trimChars name.toList) = true ∧
      (trimChars name.toList).length ≤ identifierLimit := by
  unfold IsName
  cases trimChars name.toList with
  | nil => simp [hasIdentifierForm]
  | cons c rest =>
    simp only [List.cons.injEq, hasIdentifierForm, identifierLimit, isIdentifierChar,
      Bool.and_eq_true, Bool.or_eq_true, beq_iff_eq, List.all_eq_true, List.length_cons]
    constructor
    · rintro ⟨_, _, ⟨rfl, rfl⟩, hlength, hc, hrest⟩
      exact ⟨⟨hc, fun d hd => or_assoc.mpr (hrest d hd)⟩, by omega⟩
    · rintro ⟨⟨hc, hrest⟩, hlength⟩
      exact ⟨c, rest, ⟨rfl, rfl⟩, by omega, hc, fun d hd => or_assoc.mp (hrest d hd)⟩

theorem reads_readName (name what : String) :
    Reads [name] (fun i => i.chars = trimChars name.toList) (Statement.readName name what) := by
  have hother : ∀ fault, ¬ IsName name →
      Reads [name] (fun i : Identifier => i.chars = trimChars name.toList)
        (.error (.malformedRule "presence" fault)) :=
    fun fault h => ⟨⟨fault, rfl⟩, name, List.mem_singleton_self _, h⟩
  unfold Statement.readName Identifier.read
  by_cases hempty : name.isEmpty
  · rw [if_pos hempty]
    refine hother _ fun h => ?_
    have hname : name = "" := by simpa using hempty
    subst hname
    exact absurd (isName_iff.mp h).1 (by decide)
  · rw [if_neg hempty]
    by_cases hform : hasIdentifierForm (trimChars name.toList) = true
    · by_cases hlength : (trimChars name.toList).length ≤ identifierLimit
      · simp only [hform, hlength, dif_pos]
        refine ⟨?_, rfl⟩
        intro other hmem
        rw [List.mem_singleton.mp hmem]
        exact isName_iff.mpr ⟨hform, hlength⟩
      · simp only [hform, hlength, dif_pos, dif_neg, not_false_eq_true]
        exact hother _ fun h => hlength (isName_iff.mp h).2
    · simp only [hform]
      exact hother _ fun h => hform (isName_iff.mp h).1

/-! ### Reading conditions -/

/-- Conditions match clauses if they have their texts and bind their values. -/
def Matches (clauses : List Clause) (cs : List Condition) : Prop :=
  cs.map Condition.chars = clauses.map (Clause.chars placeholder) ∧
    cs.filterMap Condition.bound? = clauses.filterMap Clause.value

theorem Matches.append {clauses clauses' : List Clause} {cs cs' : List Condition}
    (h : Matches clauses cs) (h' : Matches clauses' cs') : Matches (clauses ++ clauses') (cs ++ cs') := by
  unfold Matches
  rw [List.map_append, List.map_append, List.filterMap_append, List.filterMap_append]
  rw [h.1, h'.1, h.2, h'.2]
  exact ⟨rfl, rfl⟩

/-- An identifier that was read stands in a text as its name between quotes. -/
theorem quotedChars_eq {i : Identifier} {name : String} (h : i.chars = trimChars name.toList) :
    i.quotedChars = quotedName name := by
  unfold Identifier.quotedChars quotedName
  rw [h]

theorem reads_extraCondition (column expected : String) :
    Reads [column] (fun c => Matches [extraClause (column, expected)] [c])
      (Statement.extraCondition column expected) := by
  refine (reads_readName column "column").map ?_
  intro i hi
  have hquoted := quotedChars_eq hi
  unfold extraClause
  by_cases hnull : expected = "NULL"
  · simp [Matches, hnull, Condition.chars, Condition.bound?, Clause.chars, hquoted]
  · by_cases hnot : expected = "NOT_NULL"
    · simp [Matches, hnot, Condition.chars, Condition.bound?, Clause.chars, hquoted]
    · simp [Matches, hnull, hnot, Condition.chars, Condition.bound?, Clause.chars, hquoted,
        placeholder]

theorem reads_extraConditions (extra : FieldMap String) :
    Reads (extra.map Prod.fst) (Matches (extra.map extraClause))
      (Statement.extraConditions extra) := by
  induction extra with
  | nil => exact Reads.pure ⟨rfl, rfl⟩
  | cons entry rest ih =>
    obtain ⟨column, expected⟩ := entry
    refine (reads_extraCondition column expected).bind ?_
    intro c hc
    refine ih.map ?_
    intro cs hcs
    exact hc.append hcs

theorem reads_mainConditions (q : Query) :
    Reads ((mainClauses q).map Clause.column) (Matches (mainClauses q))
      (Statement.mainConditions q) := by
  cases q with
  | single table column value excluded idColumn extra =>
    cases excluded with
    | none =>
      refine (reads_readName column "column").map ?_
      intro i hi
      simp [Matches, mainClauses, Condition.chars, Condition.bound?, Clause.chars,
        quotedChars_eq hi, placeholder]
    | some id =>
      refine (reads_readName column "column").bind ?_
      intro i hi
      refine (reads_readName (idName idColumn) "id_column").map ?_
      intro j hj
      simp [Matches, mainClauses, exclusionClause, Condition.chars, Condition.bound?, Clause.chars,
        quotedChars_eq hi, quotedChars_eq hj, placeholder]
  | several table column values extra =>
    refine (reads_readName column "column").map ?_
    intro i hi
    simp [Matches, mainClauses, Condition.chars, Condition.bound?, Clause.chars,
      quotedChars_eq hi, placeholder]

/-! ### Reading a query -/

theorem reads_readSchema (schema : Option String) :
    Reads (givenName schema).toList
      (fun i => i.map Identifier.quotedChars = (givenName schema).map quotedName)
      (Statement.readSchema schema) := by
  unfold Statement.readSchema
  cases givenName schema with
  | none => exact Reads.pure rfl
  | some name =>
    refine (reads_readName name "schema").map ?_
    intro i hi
    simp [quotedChars_eq hi]

/-- A statement that says what a query asks. -/
structure Statement.Renders (s : Statement) (schema : Option String) (q : Query) : Prop where
  text : s.text.toList = countText placeholder schema q
  bounds : s.bounds = (clausesOf q).filterMap Clause.value

theorem renders_of_parts {schema : Option String} {q : Query} {i? : Option Identifier}
    {i : Identifier} {cs : List Condition} (hcs : Matches (clausesOf q) cs)
    (hschema : i?.map Identifier.quotedChars = (givenName schema).map quotedName)
    (htable : i.quotedChars = quotedName (Statement.tableOf q)) :
    Statement.Renders ⟨i?, i, cs⟩ schema q := by
  have htables : Statement.tableChars ⟨i?, i, cs⟩ =
      qualifiedTable schema (Statement.tableOf q) := by
    unfold Statement.tableChars qualifiedTable
    cases hgiven : givenName schema with
    | none =>
      rw [hgiven] at hschema
      rw [Option.map_eq_none_iff.mp hschema]
      exact htable
    | some name =>
      rw [hgiven] at hschema
      obtain ⟨j, rfl, hj⟩ := Option.map_eq_some_iff.mp hschema
      simp only [hj, htable]
  have htext : Statement.chars ⟨i?, i, cs⟩ = countText placeholder schema q := by
    unfold Statement.chars countText
    rw [htables, hcs.1]
  have hbounds : Statement.bounds ⟨i?, i, cs⟩ = (clausesOf q).filterMap Clause.value := hcs.2
  exact ⟨String.toList_ofList.trans htext, hbounds⟩

theorem reads_ofQuery {q : Query} (schema : Option String)
    (h : ∀ table column extra, q ≠ .several table column [] extra) :
    Reads (namesOf schema q) (fun s? => ∃ s, s? = some s ∧ s.Renders schema q)
      (Statement.ofQuery schema q) := by
  have hread : Statement.ofQuery schema q = (do
      let first ← Statement.mainConditions q
      let extra ← Statement.extraConditions (Statement.extraOf q)
      let schema ← Statement.readSchema schema
      let table ← Statement.readName (Statement.tableOf q) "table"
      return some ⟨schema, table, first ++ extra⟩) := by
    cases q with
    | single table column value excluded idColumn extra => rfl
    | several table column values extra =>
      cases values with
      | nil => exact absurd rfl (h table column extra)
      | cons value others => rfl
  have hall : Reads ((mainClauses q).map Clause.column ++
      ((Statement.extraOf q).map Prod.fst ++
        ((givenName schema).toList ++ [Statement.tableOf q])))
      (fun s? => ∃ s, s? = some s ∧ s.Renders schema q) (Statement.ofQuery schema q) := by
    rw [hread]
    refine (reads_mainConditions q).bind ?_
    intro first hfirst
    refine (reads_extraConditions (Statement.extraOf q)).bind ?_
    intro extra hextra
    refine (reads_readSchema schema).bind ?_
    intro i? hi?
    refine (reads_readName _ _).map ?_
    intro i hi
    exact ⟨_, rfl, renders_of_parts (hfirst.append hextra) hi? (quotedChars_eq hi)⟩
  -- the names are read in another order than they stand in
  refine hall.of_mem_iff ?_
  intro name
  have hcolumns : (Statement.extraOf q).map Prod.fst =
      ((Statement.extraOf q).map extraClause).map Clause.column := by
    simp [extraClause_column]
  rw [hcolumns]
  simp only [namesOf, clausesOf, List.map_append, List.mem_append, List.mem_cons,
    List.not_mem_nil, or_false]
  tauto

/-! ### Asking a database -/

theorem ofQuery_of_statementsOf {schema : Option String} {q : Query} {s : Statement}
    (h : statementsOf schema [q] = [s]) : Statement.ofQuery schema q = .ok (some s) := by
  unfold statementsOf at h
  cases hread : Statement.ofQuery schema q with
  | error fault => simp [hread, Except.toOption] at h
  | ok s? =>
    cases s? with
    | none => simp [hread, Except.toOption] at h
    | some s' =>
      have hs : s' = s := by simpa [hread, Except.toOption] using h
      rw [hs]

theorem renders_of_statementsOf {schema : Option String} {q : Query} {s : Statement}
    (h : statementsOf schema [q] = [s]) : s.Renders schema q := by
  have hread := ofQuery_of_statementsOf h
  have hvalues : ∀ table column extra, q ≠ .several table column [] extra := by
    rintro table column extra rfl
    cases hread
  have hall := reads_ofQuery schema hvalues
  rw [hread] at hall
  obtain ⟨-, s', hs', hrenders⟩ := hall
  cases hs'
  exact hrenders

/-- **What a query comes to over a database.** A query of which some name is no identifier is
    refused, and nothing is carried out. A query for any of no values counts none, and nothing is
    carried out. Any other leads to one statement: between the quotes of its text stand the names
    of the query, its placeholders are as many as its bound values, which stand each in its clause,
    and no value changes the text. -/
theorem verifier_reply_cases (db : Database) (schema : Option String) (asked : List Query)
    (q : Query) :
    let reply := (db.verifier schema).reply asked q
    let executed := statementsOf schema [q]
    (executed = [] ∧ (∃ detail, reply = ⟨.error (.malformedRule "presence" detail), []⟩) ∧
        ∃ name ∈ namesOf schema q, ¬ IsName name) ∨
    (executed = [] ∧ reply = ⟨.ok (.int 0), []⟩ ∧
        ∃ table column extra, q = .several table column [] extra) ∨
    ∃ s, executed = [s] ∧
      reply = db.count (statementsOf schema asked) (Statement.tableOf q) s ∧
      (∀ name ∈ namesOf schema q, IsName name) ∧
      s.text.toList = countText placeholder schema q ∧
      quotedParts s.text.toList = (namesOf schema q).map (fun name => trimChars name.toList) ∧
      s.bounds = (clausesOf q).filterMap Clause.value ∧
      countPlaceholders s.text.toList = s.bounds.length ∧
      (∀ w : Bound → List Char,
        fill s.text.toList (s.bounds.map w) = some (countText w schema q)) ∧
      ∀ q' s', SameShape q q' → statementsOf schema [q'] = [s'] → s'.text = s.text := by
  intro reply executed
  by_cases hvalues : ∃ table column extra, q = .several table column [] extra
  · refine Or.inr (Or.inl ?_)
    obtain ⟨table, column, extra, rfl⟩ := hvalues
    exact ⟨rfl, rfl, table, column, extra, rfl⟩
  · have hall := reads_ofQuery (q := q) schema fun table column extra hq =>
      hvalues ⟨table, column, extra, hq⟩
    cases hread : Statement.ofQuery schema q with
    | error fault =>
      rw [hread] at hall
      obtain ⟨⟨detail, rfl⟩, hname⟩ := hall
      refine Or.inl ⟨?_, ⟨detail, ?_⟩, hname⟩
      · simp [executed, statementsOf, hread, Except.toOption]
      · simp [reply, Database.verifier, hread]
    | ok s? =>
      rw [hread] at hall
      obtain ⟨hnames, s, rfl, htext, hbounds⟩ := hall
      have hfill : ∀ w : Bound → List Char,
          fill s.text.toList (s.bounds.map w) = some (countText w schema q) := by
        intro w
        rw [htext, hbounds]
        exact fill_countText hnames w
      refine Or.inr (Or.inr ⟨s, ?_, ?_, hnames, htext, ?_, hbounds, ?_, hfill, ?_⟩)
      · simp [executed, statementsOf, hread, Except.toOption]
      · simp [reply, Database.verifier, hread]
      · rw [htext]
        exact quotedParts_countText hnames
      · rw [countPlaceholders_of_fill (hfill placeholder), List.length_map]
      · intro q' s' hshape hexecuted
        have htext' := (renders_of_statementsOf hexecuted).text
        rw [← countText_of_sameShape hshape, ← htext] at htext'
        exact String.toList_inj.mp htext'

end PayloadCheck.Presence
