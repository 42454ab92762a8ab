import Mathlib.Algebra.GroupWithZero.Nat
import Mathlib.Data.List.Dedup
import PayloadCheck.Proofs.Check.Stored

/-!
# What `exists` decides about a list

For a list, `exists` compares the number of records that bear one of the texts with the length of
the list. A text that stands twice in the list counts twice on one side and once on the other, and
a text that several records bear makes up for one that none bears. Hence the rule decides whether
every item is there only as far as these two do not outweigh each other (`exists_list_decides`);
it does if no text stands twice and no two records bear one (`exists_list_of_distinct`).
-/

namespace PayloadCheck.Check

open PayloadCheck.Presence PayloadCheck.Rule PayloadCheck.Text

/-! ### Counting by texts -/

section

variable {α β : Type}

/-- Elements of two kinds that exclude each other are counted one kind after the other. -/
theorem countP_or_of_disjoint {p q : α → Bool} {xs : List α}
    (h : ∀ x ∈ xs, p x = true → q x = false) :
    xs.countP (fun x => p x || q x) = xs.countP p + xs.countP q := by
  induction xs with
  | nil => rfl
  | cons x rest ih =>
    have hrest := ih fun y hy => h y (List.mem_cons_of_mem _ hy)
    have hx := h x (List.mem_cons_self ..)
    simp only [List.countP_cons, hrest]
    cases hp : p x with
    | true =>
      simp only [hx hp, Bool.true_or, if_true, Bool.false_eq_true, if_false]
      omega
    | false =>
      simp only [Bool.false_or, Bool.false_eq_true, if_false]
      omega

/-- Elements under any of several different keys are counted key by key. -/
theorem countP_any_eq_sum [DecidableEq β] {key : α → Option β} {p : α → Bool} (xs : List α)
    {keys : List β} (h : keys.Nodup) :
    xs.countP (fun x => decide (∃ k ∈ keys, key x = some k) && p x) =
      (keys.map fun k => xs.countP fun x => decide (key x = some k) && p x).sum := by
  induction keys with
  | nil => simp
  | cons k rest ih =>
    obtain ⟨hk, hrest⟩ := List.nodup_cons.mp h
    rw [List.map_cons, List.sum_cons, ← ih hrest, ← countP_or_of_disjoint]
    · congr 1
      funext x
      simp [Bool.and_or_distrib_right]
    · -- an element has one key at most, so it is not counted under two of them
      intro x _ hx
      simp only [Bool.and_eq_true, decide_eq_true_eq] at hx
      have hnone : ¬ ∃ l ∈ rest, key x = some l := by
        rintro ⟨l, hl, hkey⟩
        rw [hx.1] at hkey
        cases hkey
        exact hk hl
      simp [hnone]

/-- What is added up beyond one for each element, and what is missing of one for each. -/
theorem sum_add_countP_zero (f : β → Nat) (xs : List β) :
    (xs.map f).sum + xs.countP (fun x => f x = 0) = xs.length + (xs.map (f · - 1)).sum := by
  induction xs with
  | nil => rfl
  | cons x rest ih =>
    simp only [List.map_cons, List.sum_cons, List.countP_cons, List.length_cons, decide_eq_true_eq]
    by_cases hx : f x = 0
    · rw [if_pos hx]
      omega
    · rw [if_neg hx]
      omega

end

/-! ### The query about a list -/

instance (field text : String) (ps : List String) (row : Row) :
    Decidable (Bears field text ps row) :=
  decidable_of_iff
    (row.cell ((givenName ps[1]?).getD field) = some text ∧
      ∀ condition ∈ pairUp (ps.drop 2), row.Meets condition)
    (and_congr Iff.rfl forall_mem_pairUp_iff)

/-- The number of records that bear a text. -/
def bearers (t : Tables) (field table : String) (ps : List String) (text : String) : Nat :=
  (t.rows table).countP fun row => Bears field text ps row

theorem bearers_eq_zero_iff {t : Tables} {field table text : String} {ps : List String} :
    bearers t field table ps text = 0 ↔ ¬ ∃ row ∈ t.rows table, Bears field text ps row := by
  unfold bearers
  rw [List.countP_eq_zero]
  simp

/-- The records that bear one of several texts are counted text by text. -/
theorem count_several (t : Tables) (field table : String) (ps texts : List String) :
    t.count (.several table (columnOf field ps) texts (pairUp (ps.drop 2))) =
      (texts.dedup.map (bearers t field table ps)).sum := by
  have hbears : ∀ text, bearers t field table ps text =
      (t.rows table).countP fun row => decide (row.cell (columnOf field ps) = some text) &&
        decide (∀ condition ∈ pairUp (ps.drop 2), row.Meets condition) := by
    intro text
    unfold bearers
    congr 1
    funext row
    rw [← Bool.decide_and]
    exact decide_eq_decide.mpr (and_congr Iff.rfl forall_mem_pairUp_iff.symm)
  rw [funext hbears, ← countP_any_eq_sum _ texts.nodup_dedup]
  unfold Tables.count
  congr 1
  funext row
  rw [← Bool.decide_and]
  refine decide_eq_decide.mpr ?_
  simp only [Tables.Holds, List.mem_dedup]

/-- The number of different texts that no record bears. -/
def missing (t : Tables) (field table : String) (ps texts : List String) : Nat :=
  texts.dedup.countP fun text => bearers t field table ps text = 0

/-- The number of texts that stood in the list before. -/
def repeats (texts : List String) : Nat := texts.length - texts.dedup.length

/-- The number of records that bear a text that another record bears as well. -/
def surplus (t : Tables) (field table : String) (ps texts : List String) : Nat :=
  (texts.dedup.map fun text => bearers t field table ps text - 1).sum

theorem missing_eq_zero_iff {t : Tables} {field table : String} {ps texts : List String} :
    missing t field table ps texts = 0 ↔
      ∀ text ∈ texts, ∃ row ∈ t.rows table, Bears field text ps row := by
  unfold missing
  rw [List.countP_eq_zero]
  refine forall_congr' fun text => ?_
  rw [List.mem_dedup, decide_eq_true_iff, bearers_eq_zero_iff, not_not]

/-- There are bearers enough for a list iff they outweigh what is missing and what repeats. -/
theorem length_le_sum_iff {t : Tables} {field table : String} {ps texts : List String} :
    texts.length ≤ (texts.dedup.map (bearers t field table ps)).sum ↔
      missing t field table ps texts + repeats texts ≤ surplus t field table ps texts := by
  have hsum := sum_add_countP_zero (bearers t field table ps) texts.dedup
  have hlength : texts.dedup.length ≤ texts.length := texts.dedup_sublist.length_le
  unfold missing repeats surplus
  omega

theorem comparables_of_forall₂ {items : List Value} {texts : List String}
    (h : List.Forall₂ (fun item text => item.comparable = .ok text) items texts) :
    comparables items = .ok texts := by
  induction h with
  | nil => rfl
  | cons hitem _ ih =>
    rw [comparables, hitem, ih]
    rfl

section

variable {t : Tables} {store : Verifier} {e : Engine} {name : String} {items : List Value}
  {texts : List String} {v : Value}

/-- The rule `exists` compares the number of texts with the numbers of their bearers. -/
theorem dispatch_exists_list (hcounts : store.Counts t)
    (hfind : e.catalogue.find? name = some existsCheck)
    (htexts : List.Forall₂ (fun item text => item.comparable = .ok text) items texts)
    (hv : v = .list items ∨ v = .tuple items)
    (field table : String) (more : List String) (heven : ((table :: more).drop 2).length % 2 = 0)
    (hcolumns : DistinctColumns ((table :: more).drop 2)) (j : Journal) :
    (e.dispatch (some store) field v ⟨name, table :: more⟩ j).1 =
      .ok (texts.length ≤ (texts.dedup.map (bearers t field table (table :: more))).sum) := by
  let ps := table :: more
  let q := Query.several table (columnOf field ps) texts (pairUp (ps.drop 2))
  have hquery : existsQuery field v ps = .ok (q, texts.length) := by
    have hextra := extraConditions_of_even heven hcolumns "exists"
    rcases hv with rfl | rfl
    · simp only [existsQuery_eq, ps, hextra, comparables_of_forall₂ htexts]
      rfl
    · simp only [existsQuery_eq, ps, hextra, comparables_of_forall₂ htexts]
      rfl
  have hrun : existsCheck.run (e.context true) field v ps =
      .asks q (fun count => (texts.length : Int) ≤ count) := by
    simp only [existsCheck, asking, hquery]
    rfl
  rw [dispatch_of_asks ⟨name, ps⟩ hcounts hfind (arity_le table more) hrun j, count_several]
  simp only [Int.ofNat_le]
  rfl

/-- **The rule `exists` on a list.** It is satisfied iff the missing and the repeated texts are no
    more than the surplus of records. That is the same as every text being there exactly if nothing
    is missing and the surplus makes up for what repeats, or something is missing and the surplus
    does not make up for it. -/
theorem exists_list_decides (hcounts : store.Counts t)
    (hfind : e.catalogue.find? name = some existsCheck)
    (htexts : List.Forall₂ (fun item text => item.comparable = .ok text) items texts)
    (hv : v = .list items ∨ v = .tuple items)
    (field table : String) (more : List String) (heven : ((table :: more).drop 2).length % 2 = 0)
    (hcolumns : DistinctColumns ((table :: more).drop 2)) (j : Journal) :
    let ps := table :: more
    let missing := missing t field table ps texts
    let surplus := surplus t field table ps texts
    ∃ passes, (e.dispatch (some store) field v ⟨name, ps⟩ j).1 = .ok passes ∧
      (passes = true ↔ missing + repeats texts ≤ surplus) ∧
      ((passes = true ↔ ∀ text ∈ texts, ∃ row ∈ t.rows table, Bears field text ps row) ↔
        (missing = 0 ∧ repeats texts ≤ surplus) ∨
          (0 < missing ∧ surplus < missing + repeats texts)) := by
  intro ps missing surplus
  refine ⟨_, dispatch_exists_list hcounts hfind htexts hv field table more heven hcolumns j, ?_, ?_⟩
  · rw [decide_eq_true_iff]
    exact length_le_sum_iff
  · rw [decide_eq_true_iff, length_le_sum_iff, ← missing_eq_zero_iff]
    change (missing + repeats texts ≤ surplus ↔ missing = 0) ↔ _
    omega

/-- Two records bear the first text of the list and none the second: it is missing, but the rule
is satisfied. -/
theorem exists_list_decides_missing :
    let t : Tables := ⟨[("users", [[("email", some "a")], [("email", some "a")]])], false⟩
    let e : Engine := ⟨"adhoc", [], builtin, .ofPayload [], ⟨[], []⟩, default⟩
    let v : Value := .list [.text "a", .text "b"]
    (e.dispatch (some t.verifier) "email" v ⟨"exists", ["users"]⟩ {}).1 = .ok true ∧
      ¬ ∀ text ∈ ["a", "b"], ∃ row ∈ t.rows "users", Bears "email" text ["users"] row := by
  -- kept closed, for its keys are computed by the tables of all letters
  generalize hcatalogue : builtin = catalogue
  intro t e v
  have hfind : catalogue.find? "exists" = some existsCheck := by
    rw [← hcatalogue]
    exact find?_builtin_exists key_existsCheck
  obtain ⟨passes, hresult, hpasses, -⟩ :=
    exists_list_decides (e := e) (v := v) t.verifier_counts hfind (.cons rfl (.cons rfl .nil))
      (Or.inl rfl) "email" "users" [] rfl DistinctColumns.nil {}
  have hpass : passes = true := hpasses.mpr (by decide)
  exact ⟨hresult.trans (congrArg Except.ok hpass), by decide⟩

/-- One record bears the text that stands twice in the list: nothing is missing, but the rule is
not satisfied. -/
theorem exists_list_repeated_fails :
    let t : Tables := ⟨[("users", [[("email", some "a")]])], false⟩
    let e : Engine := ⟨"adhoc", [], builtin, .ofPayload [], ⟨[], []⟩, default⟩
    let v : Value := .list [.text "a", .text "a"]
    t.verifier.Counts t ∧
      (e.dispatch (some t.verifier) "email" v ⟨"exists", ["users"]⟩ {}).1 = .ok false ∧
      ∀ text ∈ ["a", "a"], ∃ row ∈ t.rows "users", Bears "email" text ["users"] row := by
  -- kept closed, for its keys are computed by the tables of all letters
  generalize hcatalogue : builtin = catalogue
  intro t e v
  have hfind : catalogue.find? "exists" = some existsCheck := by
    rw [← hcatalogue]
    exact find?_builtin_exists key_existsCheck
  have hresult := dispatch_exists_list (e := e) (v := v) t.verifier_counts hfind
    (.cons rfl (.cons rfl .nil)) (Or.inl rfl) "email" "users" [] rfl DistinctColumns.nil {}
  exact ⟨t.verifier_counts, hresult.trans (congrArg Except.ok (by decide)), by decide⟩

/-- Where no text stands twice in the list and no two records bear one, `exists` is satisfied iff
every text is there. -/
theorem exists_list_of_distinct (hcounts : store.Counts t)
    (hfind : e.catalogue.find? name = some existsCheck)
    (htexts : List.Forall₂ (fun item text => item.comparable = .ok text) items texts)
    (hv : v = .list items ∨ v = .tuple items)
    (field table : String) (more : List String) (heven : ((table :: more).drop 2).length % 2 = 0)
    (hcolumns : DistinctColumns ((table :: more).drop 2))
    (hdistinct : texts.Nodup)
    (hunique : ∀ text ∈ texts, bearers t field table (table :: more) text ≤ 1) (j : Journal) :
    ∃ passes, (e.dispatch (some store) field v ⟨name, table :: more⟩ j).1 = .ok passes ∧
      (passes = true ↔
        ∀ text ∈ texts, ∃ row ∈ t.rows table, Bears field text (table :: more) row) := by
  have hrepeats : repeats texts = 0 := by
    unfold repeats
    rw [hdistinct.dedup, Nat.sub_self]
  have hsurplus : surplus t field table (table :: more) texts = 0 := by
    unfold surplus
    rw [List.sum_eq_zero_iff_forall_eq_nat]
    intro n hn
    obtain ⟨text, htext, rfl⟩ := List.mem_map.mp hn
    have hone := hunique text (List.mem_dedup.mp htext)
    omega
  refine ⟨_, dispatch_exists_list hcounts hfind htexts hv field table more heven hcolumns j, ?_⟩
  rw [decide_eq_true_iff, length_le_sum_iff, ← missing_eq_zero_iff]
  omega

end

end PayloadCheck.Check
