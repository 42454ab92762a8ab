import PayloadCheck.Proofs.Check.Pass
import PayloadCheck.Proofs.Presence.Tables

/-!
# What the rules on stored records decide

Against a verifier that counts a store, `unique` is satisfied iff no record of the table holds the
value and `exists` iff some record does, where the parameters say which records are meant
(`stored_rules_decide`). Parameters that do not pair up, and a missing verifier, are faults, and
nothing is asked then.
-/

namespace PayloadCheck.Check

open PayloadCheck.Presence PayloadCheck.Rule PayloadCheck.Text

/-! ### Trailing parameters -/

/-- The condition at position `i` of trailing parameters: columns stand at the even positions,
and behind each of them its text. -/
def ConditionAt (segments : List String) (i : Nat) (condition : String × String) : Prop :=
  segments[2 * i]? = some condition.1 ∧ segments[2 * i + 1]? = some condition.2

/-- Trailing parameters that name no column twice. -/
def DistinctColumns (segments : List String) : Prop :=
  ∀ i j column, segments[2 * i]? = some column → segments[2 * j]? = some column → i = j

theorem conditionAt_cons_cons {column expected : String} {rest : List String} {i : Nat}
    {condition : String × String} :
    ConditionAt (column :: expected :: rest) (i + 1) condition ↔ ConditionAt rest i condition :=
  Iff.rfl

theorem mem_pairUp_iff {segments : List String} {condition : String × String} :
    condition ∈ pairUp segments ↔ ∃ i, ConditionAt segments i condition := by
  induction segments using pairUp.induct with
  | case1 column expected rest ih =>
    rw [pairUp, List.mem_cons, ih]
    constructor
    · rintro (rfl | ⟨i, hi⟩)
      · exact ⟨0, rfl, rfl⟩
      · exact ⟨i + 1, conditionAt_cons_cons.mpr hi⟩
    · rintro ⟨i, hi⟩
      cases i with
      | zero => exact Or.inl (Prod.ext (Option.some.inj hi.1).symm (Option.some.inj hi.2).symm)
      | succ i => exact Or.inr ⟨i, conditionAt_cons_cons.mp hi⟩
  | case2 segments hshort =>
    -- a column without a text behind it makes no condition
    have hnone : ∀ i, segments[2 * i + 1]? = none := by
      intro i
      match segments, hshort with
      | [], _ => rfl
      | [_], _ => rfl
      | column :: expected :: rest, hshort => exact absurd rfl (hshort column expected rest)
    rw [pairUp]
    · simp [ConditionAt, hnone]
    · exact hshort

theorem DistinctColumns.nil : DistinctColumns [] := by
  intro i j column hi
  simp at hi

theorem DistinctColumns.rest {column expected : String} {rest : List String}
    (h : DistinctColumns (column :: expected :: rest)) : DistinctColumns rest := by
  intro i j other hi hj
  exact Nat.succ.inj (h (i + 1) (j + 1) other hi hj)

theorem DistinctColumns.nodup {segments : List String} (h : DistinctColumns segments) :
    ((pairUp segments).map Prod.fst).Nodup := by
  induction segments using pairUp.induct with
  | case1 column expected rest ih =>
    rw [pairUp, List.map_cons, List.nodup_cons]
    refine ⟨?_, ih h.rest⟩
    intro hmem
    obtain ⟨condition, hcondition, hcolumn⟩ := List.mem_map.mp hmem
    obtain ⟨i, hi, -⟩ := mem_pairUp_iff.mp hcondition
    rw [show condition.1 = column from hcolumn] at hi
    cases h 0 (i + 1) column rfl hi
  | case2 segments hshort =>
    rw [pairUp]
    · exact List.nodup_nil
    · exact hshort

theorem extraConditions_of_even {segments : List String} (heven : segments.length % 2 = 0)
    (hcolumns : DistinctColumns segments) (rule : String) :
    extraConditions segments rule = .ok (pairUp segments) := by
  unfold extraConditions
  rw [if_neg (by omega), FieldMap.ofList_of_nodup hcolumns.nodup]

theorem extraConditions_of_odd {segments : List String} (hodd : segments.length % 2 = 1)
    (rule : String) :
    ∃ detail, extraConditions segments rule = .error (.malformedRule rule detail) := by
  unfold extraConditions
  rw [if_pos hodd]
  exact ⟨_, rfl⟩

/-! ### Asking a store -/

section

variable {e : Engine} {check : Check} {field : String} {v : Value}

theorem dispatch_of_refused (rule : Spec) {verifier : Option Verifier} {fault : Fault}
    (hfind : e.catalogue.find? rule.name = some check)
    (harity : check.arity ≤ rule.parameters.length)
    (hrun : check.run (e.context verifier.isSome) field v rule.parameters = .refused fault)
    (j : Journal) : e.dispatch verifier field v rule j = (.error fault, j) := by
  unfold Engine.dispatch
  rw [Catalogue.lookUp_of_find? hfind]
  simp only [if_neg (Nat.not_lt.mpr harity), hrun]

theorem dispatch_of_asks (rule : Spec) {t : Tables} {store : Verifier} {q : Query}
    {judge : Int → Bool} (hcounts : store.Counts t) (hfind : e.catalogue.find? rule.name = some check)
    (harity : check.arity ≤ rule.parameters.length)
    (hrun : check.run (e.context true) field v rule.parameters = .asks q judge) (j : Journal) :
    (e.dispatch (some store) field v rule j).1 = .ok (judge (t.count q)) := by
  have hcount : countAfter (some store) j.asked q = .ok (t.count q : Int) := by
    simp only [countAfter, hcounts j.asked q]
    rfl
  rw [(Engine.dispatch_eq e (some store) field v rule j).1, Engine.answer,
    Catalogue.lookUp_of_find? hfind]
  simp only [if_neg (Nat.not_lt.mpr harity), Option.isSome_some, hrun, hcount]
  rfl

end

/-! ### The records that are meant -/

theorem forall_mem_pairUp_iff {segments : List String} {row : Row} :
    (∀ condition ∈ pairUp segments, row.Meets condition) ↔
      ∀ i condition, ConditionAt segments i condition → row.Meets condition := by
  constructor
  · intro h i condition hi
    exact h condition (mem_pairUp_iff.mpr ⟨i, hi⟩)
  · intro h condition hmem
    obtain ⟨i, hi⟩ := mem_pairUp_iff.mp hmem
    exact h i condition hi

/-- A record takes a text away from a rule `unique`: it holds the text in the column of the second
parameter, or of the field; it is not the one whose id is the third parameter, in the column of
the fourth one; and it meets the conditions from the fifth parameter on. -/
def Takes (t : Tables) (field text : String) (ps : List String) (row : Row) : Prop :=
  row.cell ((givenName ps[1]?).getD field) = some text ∧
    (∀ id, ps[2]? = some id → lower id ≠ "null" →
      t.Differs row ((givenName ps[3]?).getD "id") id) ∧
    ∀ i condition, ConditionAt (ps.drop 4) i condition → row.Meets condition

/-- A record bears a text for a rule `exists`: it holds the text in the column of the second
parameter, or of the field, and meets the conditions from the third parameter on. -/
def Bears (field text : String) (ps : List String) (row : Row) : Prop :=
  row.cell ((givenName ps[1]?).getD field) = some text ∧
    ∀ i condition, ConditionAt (ps.drop 2) i condition → row.Meets condition

/-- Only an id that is given and does not spell `null` leaves a record out. -/
theorem mem_exclusionOf_iff {ps : List String} {id : String} :
    id ∈ (exclusionOf ps).1 ↔ ps[2]? = some id ∧ lower id ≠ "null" := by
  unfold exclusionOf
  cases ps[2]? with
  | none => simp
  | some other =>
    by_cases hnull : lower other = "null"
    · simp only [hnull, if_true, Option.mem_def, Option.some.injEq]
      constructor
      · intro h
        cases h
      · rintro ⟨rfl, h⟩
        exact absurd hnull h
    · simp only [hnull, if_false, Option.mem_def, Option.some.injEq]
      constructor
      · rintro rfl
        exact ⟨rfl, hnull⟩
      · exact And.left

theorem idName_exclusionOf {ps : List String} {id : String} (h : ps[2]? = some id) :
    idName (exclusionOf ps).2 = (givenName ps[3]?).getD "id" := by
  simp only [exclusionOf, h]
  exact idName_some_idName ps[3]?

theorem holds_unique_iff {t : Tables} {field table text : String} {ps : List String} {row : Row} :
    t.Holds (.single table (columnOf field ps) text (exclusionOf ps).1 (exclusionOf ps).2
      (pairUp (ps.drop 4))) row ↔ Takes t field text ps row := by
  unfold Tables.Holds Takes
  refine and_congr Iff.rfl (and_congr ?_ forall_mem_pairUp_iff)
  constructor
  · intro h id hid hnull
    rw [← idName_exclusionOf hid]
    exact h id (mem_exclusionOf_iff.mpr ⟨hid, hnull⟩)
  · intro h id hmem
    obtain ⟨hid, hnull⟩ := mem_exclusionOf_iff.mp hmem
    rw [idName_exclusionOf hid]
    exact h id hid hnull

theorem holds_exists_iff {t : Tables} {field table text : String} {ps : List String} {row : Row} :
    t.Holds (.single table (columnOf field ps) text none none (pairUp (ps.drop 2))) row ↔
      Bears field text ps row := by
  unfold Tables.Holds Bears
  refine and_congr Iff.rfl ?_
  rw [forall_mem_pairUp_iff]
  simp

/-! ### The rules -/

section

variable {e : Engine} {name field table : String} {more : List String} {v : Value}

/-- One parameter is enough for the rules on stored records. -/
theorem arity_le (table : String) (more : List String) : 1 ≤ (table :: more).length :=
  Nat.succ_le_succ (Nat.zero_le _)

theorem stored_of_no_verifier {check : Check} (hmem : check ∈ storedChecks)
    (hfind : e.catalogue.find? name = some check) (field table : String) (more : List String)
    (v : Value) (j : Journal) :
    e.dispatch none field v ⟨name, table :: more⟩ j = (.error .noVerifier, j) := by
  simp only [storedChecks, List.mem_cons, List.not_mem_nil, or_false] at hmem
  rcases hmem with rfl | rfl
  · exact dispatch_of_refused ⟨name, table :: more⟩ hfind (arity_le table more) rfl j
  · exact dispatch_of_refused ⟨name, table :: more⟩ hfind (arity_le table more) rfl j

theorem unique_of_odd (hfind : e.catalogue.find? name = some uniqueCheck)
    (hodd : ((table :: more).drop 4).length % 2 = 1) (field : String) (v : Value)
    (store : Verifier) (j : Journal) :
    ∃ detail, e.dispatch (some store) field v ⟨name, table :: more⟩ j =
      (.error (.malformedRule "unique" detail), j) := by
  obtain ⟨detail, hextra⟩ := extraConditions_of_odd hodd "unique"
  refine ⟨detail, dispatch_of_refused ⟨name, table :: more⟩ hfind (arity_le table more) ?_ j⟩
  have hquery : uniqueQuery field v (table :: more) = .error (.malformedRule "unique" detail) := by
    rw [uniqueQuery_eq, hextra]
    rfl
  simp only [uniqueCheck, hquery]
  rfl

theorem exists_of_odd (hfind : e.catalogue.find? name = some existsCheck)
    (hodd : ((table :: more).drop 2).length % 2 = 1) (field : String) (v : Value)
    (store : Verifier) (j : Journal) :
    ∃ detail, e.dispatch (some store) field v ⟨name, table :: more⟩ j =
      (.error (.malformedRule "exists" detail), j) := by
  obtain ⟨detail, hextra⟩ := extraConditions_of_odd hodd "exists"
  refine ⟨detail, dispatch_of_refused ⟨name, table :: more⟩ hfind (arity_le table more) ?_ j⟩
  have hquery : existsQuery field v (table :: more) = .error (.malformedRule "exists" detail) := by
    rw [existsQuery_eq, hextra]
    rfl
  simp only [existsCheck, hquery]
  rfl

theorem unique_of_even {t : Tables} {store : Verifier} (hcounts : store.Counts t)
    (hfind : e.catalogue.find? name = some uniqueCheck) {text : String}
    (htext : v.comparable = .ok text) (heven : ((table :: more).drop 4).length % 2 = 0)
    (hcolumns : DistinctColumns ((table :: more).drop 4)) (field : String) (j : Journal) :
    ∃ passes, (e.dispatch (some store) field v ⟨name, table :: more⟩ j).1 = .ok passes ∧
      (passes = true ↔ ∀ row ∈ t.rows table, ¬ Takes t field text (table :: more) row) := by
  let ps := table :: more
  let q := Query.single table (columnOf field ps) text (exclusionOf ps).1 (exclusionOf ps).2
    (pairUp (ps.drop 4))
  have hquery : uniqueQuery field v ps = .ok q := by
    rw [uniqueQuery_eq, extraConditions_of_even heven hcolumns, htext]
    rfl
  have hrun : uniqueCheck.run (e.context true) field v ps = .asks q (fun count => count == 0) := by
    simp only [uniqueCheck, asking, hquery]
    rfl
  refine ⟨_, dispatch_of_asks ⟨name, ps⟩ hcounts hfind (arity_le table more) hrun j, ?_⟩
  rw [beq_iff_eq, Int.natCast_eq_zero, Tables.count_eq_zero_iff]
  exact forall₂_congr fun row _ => not_congr holds_unique_iff

/-- A value that is neither a list nor a tuple. -/
def IsScalar (v : Value) : Prop := ∀ items, v ≠ .list items ∧ v ≠ .tuple items

theorem existsQuery_of_scalar (hscalar : IsScalar v) {text : String}
    (htext : v.comparable = .ok text) (heven : ((table :: more).drop 2).length % 2 = 0)
    (hcolumns : DistinctColumns ((table :: more).drop 2)) (field : String) :
    existsQuery field v (table :: more) =
      .ok (.single table (columnOf field (table :: more)) text none none
        (pairUp ((table :: more).drop 2)), 1) := by
  have hextra := extraConditions_of_even heven hcolumns "exists"
  cases v with
  | list items => exact absurd rfl (hscalar items).1
  | tuple items => exact absurd rfl (hscalar items).2
  | _ =>
    simp only [existsQuery_eq, hextra, htext]
    rfl

theorem exists_of_even {t : Tables} {store : Verifier} (hcounts : store.Counts t)
    (hfind : e.catalogue.find? name = some existsCheck) (hscalar : IsScalar v) {text : String}
    (htext : v.comparable = .ok text) (heven : ((table :: more).drop 2).length % 2 = 0)
    (hcolumns : DistinctColumns ((table :: more).drop 2)) (field : String) (j : Journal) :
    ∃ passes, (e.dispatch (some store) field v ⟨name, table :: more⟩ j).1 = .ok passes ∧
      (passes = true ↔ ∃ row ∈ t.rows table, Bears field text (table :: more) row) := by
  let ps := table :: more
  let q := Query.single table (columnOf field ps) text none none (pairUp (ps.drop 2))
  have hquery : existsQuery field v ps = .ok (q, 1) :=
    existsQuery_of_scalar hscalar htext heven hcolumns field
  have hrun : existsCheck.run (e.context true) field v ps =
      .asks q (fun count => ((1 : Nat) : Int) ≤ count) := by
    simp only [existsCheck, asking, hquery]
    rfl
  refine ⟨_, dispatch_of_asks ⟨name, ps⟩ hcounts hfind (arity_le table more) hrun j, ?_⟩
  rw [decide_eq_true_iff, Int.ofNat_le, Tables.one_le_count_iff]
  exact exists_congr fun row => and_congr Iff.rfl holds_exists_iff

end

/-- **The rules on stored records**, against a verifier that counts a store. Without a verifier
    both are refused, and so are trailing parameters that do not pair up; nothing is asked then.
    Else `unique` is satisfied iff no record of the table takes the text of the value away, and
    `exists` iff some record bears it. -/
theorem stored_rules_decide {t : Tables} {store : Verifier} (hcounts : store.Counts t) {e : Engine}
    {uniqueName existsName : String}
    (hunique : e.catalogue.find? uniqueName = some uniqueCheck)
    (hexists : e.catalogue.find? existsName = some existsCheck)
    (field table : String) (more : List String) (v : Value) (j : Journal) :
    let ps := table :: more
    let unique : Spec := ⟨uniqueName, ps⟩
    let exists' : Spec := ⟨existsName, ps⟩
    e.dispatch none field v unique j = (.error .noVerifier, j) ∧
    e.dispatch none field v exists' j = (.error .noVerifier, j) ∧
    ((ps.drop 4).length % 2 = 1 → ∃ detail,
      e.dispatch (some store) field v unique j = (.error (.malformedRule "unique" detail), j)) ∧
    ((ps.drop 2).length % 2 = 1 → ∃ detail,
      e.dispatch (some store) field v exists' j = (.error (.malformedRule "exists" detail), j)) ∧
    ∀ text, v.comparable = .ok text → IsScalar v →
      ((ps.drop 4).length % 2 = 0 → DistinctColumns (ps.drop 4) →
        ∃ passes, (e.dispatch (some store) field v unique j).1 = .ok passes ∧
          (passes = true ↔ ∀ row ∈ t.rows table, ¬ Takes t field text ps row)) ∧
      ((ps.drop 2).length % 2 = 0 → DistinctColumns (ps.drop 2) →
        ∃ passes, (e.dispatch (some store) field v exists' j).1 = .ok passes ∧
          (passes = true ↔ ∃ row ∈ t.rows table, Bears field text ps row)) := by
  intro ps unique exists'
  have huniqueMem : uniqueCheck ∈ storedChecks := List.mem_cons_self ..
  have hexistsMem : existsCheck ∈ storedChecks := List.mem_cons_of_mem _ (List.mem_cons_self ..)
  refine ⟨stored_of_no_verifier huniqueMem hunique field table more v j,
    stored_of_no_verifier hexistsMem hexists field table more v j, ?_, ?_, ?_⟩
  · intro hodd
    exact unique_of_odd hunique hodd field v store j
  · intro hodd
    exact exists_of_odd hexists hodd field v store j
  · intro text htext hscalar
    constructor
    · intro heven hcolumns
      exact unique_of_even hcounts hunique htext heven hcolumns field j
    · intro heven hcolumns
      exact exists_of_even hcounts hexists hscalar htext heven hcolumns field j

/-- A table of one user: the address of the user is taken, and it is there. -/
theorem stored_rules_decide_one :
    let row : Row := [("email", some "a@b.org")]
    let t : Tables := ⟨[("users", [row])], false⟩
    let e : Engine := ⟨"adhoc", [], builtin, .ofPayload [], ⟨[], []⟩, default⟩
    let v : Value := .text "a@b.org"
    e.dispatch none "email" v ⟨"unique", ["users"]⟩ {} = (.error .noVerifier, {}) ∧
      (e.dispatch (some t.verifier) "email" v ⟨"unique", ["users"]⟩ {}).1 = .ok false ∧
      (e.dispatch (some t.verifier) "email" v ⟨"exists", ["users"]⟩ {}).1 = .ok true := by
  -- kept closed, for its keys are computed by the tables of all letters
  generalize hcatalogue : builtin = catalogue
  intro row t e v
  have hunique : catalogue.find? "unique" = some uniqueCheck := by
    rw [← hcatalogue]
    exact find?_builtin_unique key_uniqueCheck
  have hexists : catalogue.find? "exists" = some existsCheck := by
    rw [← hcatalogue]
    exact find?_builtin_exists key_existsCheck
  have hconditions : ∀ i condition, ¬ ConditionAt [] i condition := by
    simp [ConditionAt]
  obtain ⟨hnone, -, -, -, hdecide⟩ :=
    stored_rules_decide (e := e) t.verifier_counts hunique hexists "email" "users" [] v {}
  obtain ⟨huniqueEven, hexistsEven⟩ := hdecide "a@b.org" rfl fun items => ⟨nofun, nofun⟩
  obtain ⟨free, hfree, hfreeIff⟩ := huniqueEven rfl DistinctColumns.nil
  obtain ⟨there, hthere, hthereIff⟩ := hexistsEven rfl DistinctColumns.nil
  have htaken : Takes t "email" "a@b.org" ["users"] row := by
    refine ⟨rfl, ?_, fun i condition hi => absurd hi (hconditions i condition)⟩
    intro id hid
    cases hid
  have hbears : Bears "email" "a@b.org" ["users"] row :=
    ⟨rfl, fun i condition hi => absurd hi (hconditions i condition)⟩
  have hrow : row ∈ t.rows "users" := List.mem_singleton_self row
  refine ⟨hnone, ?_, ?_⟩
  · rw [hfree]
    have hfalse : ¬ free = true := fun hpass => hfreeIff.mp hpass row hrow htaken
    rw [Bool.eq_false_iff.mpr hfalse]
  · rw [hthere, hthereIff.mpr ⟨row, hrow, hbears⟩]

end PayloadCheck.Check
