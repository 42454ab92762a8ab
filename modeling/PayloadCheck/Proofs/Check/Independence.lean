import Mathlib.Data.List.Basic
import PayloadCheck.Proofs.Check.Locality

/-!
# Rules that do not disturb each other

Without rules on stored records and without dates that are told by the clock, what a rule comes to
depends on the payload and on the rules of its own field, whatever their order. So if each of two
rule maps for different fields can be validated, any interleaving of them can, and comes to what
they come to by themselves; and where the rules of one field change places, their failures do so too
(`rules_are_independent`).
-/

namespace PayloadCheck.Check

open PayloadCheck.Presence PayloadCheck.Rule PayloadCheck.Text PayloadCheck.Time

/-! ### Interleavings -/

/-- A list that holds the items of two others, those of each in their order. -/
inductive Interleaving {α : Type} : List α → List α → List α → Prop
  | nil : Interleaving [] [] []
  | left {x : α} {a b c : List α} : Interleaving a b c → Interleaving (x :: a) b (x :: c)
  | right {x : α} {a b c : List α} : Interleaving a b c → Interleaving a (x :: b) (x :: c)

namespace Interleaving

variable {α β : Type} {a b c : List α}

theorem symm (h : Interleaving a b c) : Interleaving b a c := by
  induction h with
  | nil => exact .nil
  | left _ ih => exact .right ih
  | right _ ih => exact .left ih

theorem mem_iff (h : Interleaving a b c) {x : α} : x ∈ c ↔ x ∈ a ∨ x ∈ b := by
  induction h with
  | nil => simp
  | left _ ih => simp only [List.mem_cons, ih, or_assoc]
  | right _ ih => simp only [List.mem_cons, ih, or_left_comm]

theorem append_left (h : Interleaving a b c) (l : List α) :
    Interleaving (l ++ a) b (l ++ c) := by
  induction l with
  | nil => exact h
  | cons x rest ih => exact .left ih

theorem nil_left (b : List α) : Interleaving [] b b := by
  induction b with
  | nil => exact .nil
  | cons x rest ih => exact .right ih

/-- One item stands somewhere among the others. -/
theorem single (before : List α) (x : α) (after : List α) :
    Interleaving [x] (before ++ after) (before ++ x :: after) :=
  ((nil_left after).left.symm.append_left before).symm

theorem flatMap (h : Interleaving a b c) (f : α → List β) :
    Interleaving (a.flatMap f) (b.flatMap f) (c.flatMap f) := by
  induction h with
  | nil => exact .nil
  | left _ ih =>
    rw [List.flatMap_cons, List.flatMap_cons]
    exact ih.append_left _
  | right _ ih =>
    rw [List.flatMap_cons, List.flatMap_cons]
    exact (ih.symm.append_left _).symm

/-- What tells the two lists apart brings one of them back. -/
theorem filter_eq_left (h : Interleaving a b c) {p : α → Bool} (ha : ∀ x ∈ a, p x = true)
    (hb : ∀ x ∈ b, p x = false) : c.filter p = a := by
  induction h with
  | nil => rfl
  | left _ ih =>
    obtain ⟨hx, hrest⟩ := List.forall_mem_cons.mp ha
    rw [List.filter_cons_of_pos hx, ih hrest hb]
  | right _ ih =>
    obtain ⟨hx, hrest⟩ := List.forall_mem_cons.mp hb
    rw [List.filter_cons_of_neg (by simp [hx]), ih ha hrest]

theorem get?_eq_left {a b c : FieldMap α} (h : Interleaving a b c) {key : String}
    (hkey : key ∉ b.keys) : c.get? key = a.get? key := by
  unfold FieldMap.get?
  induction h with
  | nil => rfl
  | @left x _ _ _ _ ih =>
    rw [List.lookup_cons, List.lookup_cons, ih hkey]
  | @right x _ _ _ _ ih =>
    simp only [FieldMap.keys, List.map_cons, List.mem_cons, not_or] at hkey
    have hx : (key == x.1) = false := beq_eq_false_iff_ne.mpr hkey.1
    rw [List.lookup_cons, hx, ih hkey.2]

end Interleaving

/-! ### Reading interleaved rules -/

theorem readDeclared_cons_eq_ok_iff {field : String} {rules : Value} {rest : Declared}
    {all : RuleMap} : readDeclared ((field, rules) :: rest) = .ok all ↔
      ∃ specs more, readRules rules = .ok specs ∧ readDeclared rest = .ok more ∧
        all = (field, specs) :: more := by
  constructor
  · intro h
    obtain ⟨specs, hspecs, h⟩ := Fault.bind_eq_ok_iff.mp h
    obtain ⟨more, hmore, h⟩ := Fault.bind_eq_ok_iff.mp h
    cases h
    exact ⟨specs, more, hspecs, hmore, rfl⟩
  · rintro ⟨specs, more, hspecs, hmore, rfl⟩
    exact Fault.bind_eq_ok_iff.mpr
      ⟨specs, hspecs, Fault.bind_eq_ok_iff.mpr ⟨more, hmore, rfl⟩⟩

theorem keys_readDeclared {declared : Declared} {rules : RuleMap}
    (h : readDeclared declared = .ok rules) : rules.keys = declared.keys := by
  induction declared generalizing rules with
  | nil => cases h; rfl
  | cons first rest ih =>
    obtain ⟨specs, more, -, hmore, rfl⟩ := readDeclared_cons_eq_ok_iff.mp h
    exact congrArg (first.1 :: ·) (ih hmore)

theorem Interleaving.readDeclared {r₁ r₂ r : Declared} (h : Interleaving r₁ r₂ r) {a b : RuleMap}
    (h₁ : readDeclared r₁ = .ok a) (h₂ : readDeclared r₂ = .ok b) :
    ∃ c, readDeclared r = .ok c ∧ Interleaving a b c := by
  induction h generalizing a b with
  | nil =>
    cases h₁
    cases h₂
    exact ⟨[], rfl, .nil⟩
  | left _ ih =>
    obtain ⟨specs, more, hspecs, hmore, rfl⟩ := readDeclared_cons_eq_ok_iff.mp h₁
    obtain ⟨c, hc, hinter⟩ := ih hmore h₂
    exact ⟨_, readDeclared_cons_eq_ok_iff.mpr ⟨specs, c, hspecs, hc, rfl⟩, .left hinter⟩
  | right _ ih =>
    obtain ⟨specs, more, hspecs, hmore, rfl⟩ := readDeclared_cons_eq_ok_iff.mp h₂
    obtain ⟨c, hc, hinter⟩ := ih h₁ hmore
    exact ⟨_, readDeclared_cons_eq_ok_iff.mpr ⟨specs, c, hspecs, hc, rfl⟩, .right hinter⟩

/-! ### Rules that depend on the payload alone -/

/-- A rule of a field that neither asks the store nor reads a date that is told by the clock. -/
structure Quiet (bags : Bags) (field : String) (rule : Spec) : Prop where
  unstored : rule.key ∉ ["unique", "exists"]
  clockFree : rule.key ∈ datedKeys → ∀ v, bags.value field = .ok v →
    ClockFree bags v rule.parameters

namespace Engine

variable {e d : Engine} {verifier : Option Verifier} {resolves : List Char → Bool}

/-- A rule that is neither on stored records nor on dates is quiet. -/
theorem quiet_of_key {bags : Bags} {field : String} {rule : Spec}
    (hunstored : rule.key ∉ ["unique", "exists"]) (hundated : rule.key ∉ datedKeys) :
    Quiet bags field rule :=
  ⟨hunstored, fun hdated => absurd hdated hundated⟩

/-- An engine all of whose rules are quiet. -/
def IsQuiet (e : Engine) : Prop := ∀ p ∈ pairs e.rules, Quiet e.bags p.1 p.2.1

theorem callOf?_of_quiet (hcatalogue : e.catalogue = builtinFor resolves) {p : Pair}
    (hquiet : Quiet e.bags p.1 p.2.1) : e.callOf? verifier p = none := by
  cases hcall : e.callOf? verifier p with
  | none => rfl
  | some q =>
    have honly := builtin_asksOnlyFor resolves
    rw [← hcatalogue] at honly
    exact absurd (key_mem_of_callOf? honly hcall) hquiet.unstored

/-- A quiet rule is treated alike by engines over one payload, at whatever moments, if it stands
among rules that are alike in whether they mark the field by `sometimes` and ask for numbers. -/
theorem alike_of_quiet (hcatalogue : e.catalogue = builtinFor resolves)
    (hsame : e.catalogue = d.catalogue) (hbags : e.bags = d.bags) {field : String} {rule : Spec}
    {rules others : List Spec} (hsometimes : isSometimes rules = isSometimes others)
    (hnumeric : hasNumericRule ((e.rules.get? field).getD []) =
      hasNumericRule ((d.rules.get? field).getD []))
    (hquiet : Quiet e.bags field rule) :
    e.Alike d verifier (field, rule, rules) (field, rule, others) := by
  refine alike_of_run hsame hbags rfl rfl (fun v _ => ?_) fun v check hvalue _ hfind => ?_
  · simp only [applies, skip?, hsometimes]
  · rw [hcatalogue] at hfind
    obtain ⟨hmem, hkey⟩ := Catalogue.mem_of_find?_ofList hfind
    refine run_eq_of_local hmem hbags rfl (fun _ => hnumeric) fun hdated => Or.inr ?_
    rw [← hkey] at hdated
    exact hquiet.clockFree hdated v hvalue

/-- Where nothing is asked, every rule is judged with the same history. -/
theorem withHistory_of_silent {ps : List Pair} (hsilent : ∀ p ∈ ps, e.callOf? verifier p = none)
    (asked : List Query) : e.withHistory verifier asked ps = ps.map fun p => (asked, p) := by
  induction ps with
  | nil => rfl
  | cons p rest ih =>
    obtain ⟨hp, hrest⟩ := List.forall_mem_cons.mp hsilent
    rw [withHistory_cons, hp, Option.toList_none, List.append_nil, ih hrest, List.map_cons]

/-- A pass over quiet rules is completed iff none of them has a fault by itself, and those that fail
by themselves make its outcome. -/
theorem run_eq_ok_iff_of_quiet (hcatalogue : e.catalogue = builtinFor resolves)
    (hquiet : e.IsQuiet) {asked : List Query} {o : Outcome} :
    (e.run verifier asked).1 = .ok o ↔ (∀ p ∈ pairs e.rules, e.fault? verifier asked p = none) ∧
      o = outcomeOf e.messages ((pairs e.rules).filter (e.fails verifier asked)) := by
  have hsilent : ∀ p ∈ pairs e.rules, e.callOf? verifier p = none :=
    fun p hp => callOf?_of_quiet hcatalogue (hquiet p hp)
  have hfailing : e.failing verifier asked (pairs e.rules) =
      (pairs e.rules).filter (e.fails verifier asked) := by
    rw [failing, withHistory_of_silent hsilent, List.filter_map, List.map_map]
    exact List.map_id _
  have hfirst : e.firstFault? verifier asked (pairs e.rules) = none ↔
      ∀ p ∈ pairs e.rules, e.fault? verifier asked p = none := by
    rw [firstFault?, withHistory_of_silent hsilent, List.findSome?_map, List.findSome?_eq_none_iff]
    rfl
  rw [run_result, hfailing, ← hfirst]
  cases e.firstFault? verifier asked (pairs e.rules) with
  | some fault => simp
  | none => simp [eq_comm]

end Engine

/-! ### Outcomes field by field -/

namespace Outcome

/-- All failures and messages of an outcome. -/
def record (o : Outcome) : Record := ⟨o.failures, o.messages⟩

/-- The failures and messages of an outcome that are about some fields. -/
def about (o : Outcome) (fields : List String) : Record where
  failures := o.failures.filter fun failure => decide (failure.field ∈ fields)
  messages := o.messages.filter fun message => decide (message.1 ∈ fields)

end Outcome

namespace Engine

variable {e d : Engine} {verifier : Option Verifier} {resolves : List Char → Bool}

/-- What an outcome says about some fields comes from the rules of those fields. -/
theorem about_outcomeOf (m : Messages) (ps : List Pair) (fields : List String) :
    (outcomeOf m ps).about fields =
      (outcomeOf m (ps.filter fun p => decide (p.1 ∈ fields))).record := by
  simp only [Outcome.about, outcomeOf, List.filter_map]
  rfl

theorem field_mem {p : Pair} {rules : RuleMap} (h : p ∈ pairs rules) : p.1 ∈ rules.keys :=
  List.mem_map.mpr ⟨_, (mem_pairs_iff.mp h).1, rfl⟩

/-! ### Interleaved rules -/

/-- An engine over the same payload that has the rules of this one and those of other fields, in an
interleaving. -/
structure PartOf (e d : Engine) (others : RuleMap) : Prop where
  catalogue : e.catalogue = d.catalogue
  bags : e.bags = d.bags
  messages : e.messages = d.messages
  rules : Interleaving e.rules others d.rules
  disjoint : ∀ field ∈ e.rules.keys, field ∉ others.keys

namespace PartOf

variable {others : RuleMap}

theorem alike (h : e.PartOf d others) (hcatalogue : e.catalogue = builtinFor resolves)
    (hquiet : e.IsQuiet) (verifier : Option Verifier) {p : Pair} (hp : p ∈ pairs e.rules) :
    e.Alike d verifier p p := by
  have hget : d.rules.get? p.1 = e.rules.get? p.1 :=
    h.rules.get?_eq_left (h.disjoint p.1 (field_mem hp))
  exact alike_of_quiet hcatalogue h.catalogue h.bags rfl (by rw [hget]) (hquiet p hp)

/-- The rules of the part, told from the others by their fields. -/
theorem pairs_filter (h : e.PartOf d others) :
    (pairs d.rules).filter (fun p => decide (p.1 ∈ e.rules.keys)) = pairs e.rules := by
  refine (h.rules.flatMap _).filter_eq_left (fun p hp => ?_) fun p hp => ?_
  · exact decide_eq_true (field_mem hp)
  · exact decide_eq_false fun hmem => h.disjoint p.1 hmem (field_mem hp)

/-- What the whole says about the fields of the part is all that the part says. -/
theorem about_fields (h : e.PartOf d others) (hcatalogue : e.catalogue = builtinFor resolves)
    (hquiet : e.IsQuiet) (asked : List Query) :
    (outcomeOf d.messages ((pairs d.rules).filter (d.fails verifier asked))).about e.rules.keys =
      (outcomeOf e.messages ((pairs e.rules).filter (e.fails verifier asked))).record := by
  rw [about_outcomeOf, List.filter_comm, h.pairs_filter, h.messages]
  have hfails : ∀ p ∈ pairs e.rules, d.fails verifier asked p = e.fails verifier asked p :=
    fun p hp => ((h.alike hcatalogue hquiet verifier hp).fails asked).symm
  rw [List.filter_congr hfails]

end PartOf

/-- Two engines over one payload with quiet rules for different fields: if both passes are
completed, so is that of an engine with their rules in an interleaving, and about the fields of each
it says what that one says. -/
theorem run_interleaved {e₁ e₂ : Engine} (h₁ : e₁.PartOf e e₂.rules) (h₂ : e₂.PartOf e e₁.rules)
    (hcatalogue : e.catalogue = builtinFor resolves) (hquiet₁ : e₁.IsQuiet) (hquiet₂ : e₂.IsQuiet)
    {asked : List Query} {o₁ o₂ : Outcome} (ho₁ : (e₁.run verifier asked).1 = .ok o₁)
    (ho₂ : (e₂.run verifier asked).1 = .ok o₂) :
    ∃ o, (e.run verifier asked).1 = .ok o ∧ o.about e₁.rules.keys = o₁.record ∧
      o.about e₂.rules.keys = o₂.record := by
  have hcatalogue₁ := h₁.catalogue.trans hcatalogue
  have hcatalogue₂ := h₂.catalogue.trans hcatalogue
  obtain ⟨hno₁, rfl⟩ := (run_eq_ok_iff_of_quiet hcatalogue₁ hquiet₁).mp ho₁
  obtain ⟨hno₂, rfl⟩ := (run_eq_ok_iff_of_quiet hcatalogue₂ hquiet₂).mp ho₂
  -- a rule of the whole is one of the first or of the second engine, and is treated alike there
  have hcases : ∀ p ∈ pairs e.rules, p ∈ pairs e₁.rules ∨ p ∈ pairs e₂.rules :=
    fun p hp => (h₁.rules.flatMap _).mem_iff.mp hp
  have hquiet : e.IsQuiet := by
    intro p hp
    rcases hcases p hp with hp | hp
    · exact h₁.bags ▸ hquiet₁ p hp
    · exact h₂.bags ▸ hquiet₂ p hp
  have hno : ∀ p ∈ pairs e.rules, e.fault? verifier asked p = none := by
    intro p hp
    rcases hcases p hp with hp | hp
    · rw [← (h₁.alike hcatalogue₁ hquiet₁ verifier hp).fault? h₁.messages]
      exact hno₁ p hp
    · rw [← (h₂.alike hcatalogue₂ hquiet₂ verifier hp).fault? h₂.messages]
      exact hno₂ p hp
  exact ⟨_, (run_eq_ok_iff_of_quiet hcatalogue hquiet).mpr ⟨hno, rfl⟩,
    h₁.about_fields hcatalogue₁ hquiet₁ asked, h₂.about_fields hcatalogue₂ hquiet₂ asked⟩

/-! ### Rules of one field in another order -/

/-- An engine over the same payload that has the rules of one field in another order. -/
structure PermutedAt (e d : Engine) (before : RuleMap) (field : String) (specs others : List Spec)
    (after : RuleMap) : Prop where
  catalogue : e.catalogue = d.catalogue
  bags : e.bags = d.bags
  messages : e.messages = d.messages
  rules : e.rules = before ++ (field, specs) :: after
  permuted : d.rules = before ++ (field, others) :: after
  perm : specs.Perm others

/-- Whether a field's rules ask for numbers does not depend on their order. -/
theorem hasNumericRule_permuted (before after : RuleMap) (field : String) {specs others : List Spec}
    (hperm : specs.Perm others) (key : String) :
    hasNumericRule (((before ++ (field, specs) :: after).lookup key).getD []) =
      hasNumericRule (((before ++ (field, others) :: after).lookup key).getD []) := by
  induction before with
  | nil =>
    rw [List.nil_append, List.nil_append, List.lookup_cons, List.lookup_cons]
    cases key == field with
    | true => exact hperm.any_eq
    | false => rfl
  | cons first rest ih =>
    rw [List.cons_append, List.cons_append, List.lookup_cons, List.lookup_cons]
    cases key == first.1 with
    | true => rfl
    | false => exact ih

namespace PermutedAt

variable {before after : RuleMap} {field : String} {specs others : List Spec}

theorem symm (h : e.PermutedAt d before field specs others after) :
    d.PermutedAt e before field others specs after :=
  ⟨h.catalogue.symm, h.bags.symm, h.messages.symm, h.permuted, h.rules, h.perm.symm⟩

/-- The rules of the field stand among those of the others. -/
theorem interleaving (h : e.PermutedAt d before field specs others after) :
    Interleaving (specs.map fun rule => (field, rule, specs)) (pairs (before ++ after))
      (pairs e.rules) := by
  have hpairs : pairs [(field, specs)] = specs.map fun rule => (field, rule, specs) :=
    List.flatMap_singleton ..
  rw [h.rules, ← hpairs]
  exact (Interleaving.single before (field, specs) after).flatMap _

theorem mem_at (h : e.PermutedAt d before field specs others after) {rule : Spec}
    (hrule : rule ∈ specs) : (field, rule, specs) ∈ pairs e.rules :=
  h.interleaving.mem_iff.mpr (Or.inl (List.mem_map.mpr ⟨rule, hrule, rfl⟩))

theorem mem_apart (h : e.PermutedAt d before field specs others after) {p : Pair}
    (hp : p ∈ pairs (before ++ after)) : p ∈ pairs e.rules :=
  h.interleaving.mem_iff.mpr (Or.inr hp)

section

variable (hcatalogue : e.catalogue = builtinFor resolves) (hquiet : e.IsQuiet)
include hcatalogue hquiet

theorem alike_at (h : e.PermutedAt d before field specs others after)
    (verifier : Option Verifier) {rule : Spec} (hrule : rule ∈ specs) :
    e.Alike d verifier (field, rule, specs) (field, rule, others) := by
  refine alike_of_quiet hcatalogue h.catalogue h.bags h.perm.any_eq ?_ (hquiet _ (h.mem_at hrule))
  rw [h.rules, h.permuted]
  exact hasNumericRule_permuted before after field h.perm field

theorem alike_apart (h : e.PermutedAt d before field specs others after)
    (verifier : Option Verifier) {p : Pair} (hp : p ∈ pairs (before ++ after)) :
    e.Alike d verifier p p := by
  refine alike_of_quiet hcatalogue h.catalogue h.bags rfl ?_ (hquiet p (h.mem_apart hp))
  rw [h.rules, h.permuted]
  exact hasNumericRule_permuted before after field h.perm p.1

/-- Every rule has its counterpart, which is treated alike. -/
theorem counterpart (h : e.PermutedAt d before field specs others after)
    (verifier : Option Verifier) {q : Pair} (hq : q ∈ pairs d.rules) :
    ∃ p ∈ pairs e.rules, e.Alike d verifier p q := by
  rcases h.symm.interleaving.mem_iff.mp hq with hmem | hother
  · obtain ⟨rule, hrule, rfl⟩ := List.mem_map.mp hmem
    have hrule := h.perm.mem_iff.mpr hrule
    exact ⟨_, h.mem_at hrule, h.alike_at hcatalogue hquiet verifier hrule⟩
  · exact ⟨q, h.mem_apart hother, h.alike_apart hcatalogue hquiet verifier hother⟩

end

/-- The failures of the field are those of its rules that fail, in their order. -/
theorem about_field (h : e.PermutedAt d before field specs others after)
    (hfield : field ∉ FieldMap.keys (before ++ after)) (asked : List Query) :
    ((outcomeOf e.messages ((pairs e.rules).filter (e.fails verifier asked))).about
        [field]).failures =
      (specs.filter fun rule => e.fails verifier asked (field, rule, specs)).map
        (fun rule => ⟨field, rule.name, rule.parameters⟩) := by
  have hpairs : (pairs e.rules).filter (fun p => decide (p.1 ∈ [field])) =
      specs.map fun rule => (field, rule, specs) := by
    refine h.interleaving.filter_eq_left (fun p hp => ?_) fun p hp => ?_
    · obtain ⟨rule, -, rfl⟩ := List.mem_map.mp hp
      exact decide_eq_true (List.mem_singleton_self field)
    · refine decide_eq_false fun hmem => hfield ?_
      rw [← List.mem_singleton.mp hmem]
      exact field_mem hp
  rw [about_outcomeOf, List.filter_comm, hpairs, List.filter_map]
  simp only [outcomeOf, Outcome.record, List.map_map]
  rfl

/-- The failures and messages of the other fields are those of their rules that fail. -/
theorem about_others (h : e.PermutedAt d before field specs others after)
    (hfield : field ∉ FieldMap.keys (before ++ after)) (asked : List Query) :
    (outcomeOf e.messages ((pairs e.rules).filter (e.fails verifier asked))).about
        (FieldMap.keys (before ++ after)) =
      (outcomeOf e.messages
        ((pairs (before ++ after)).filter (e.fails verifier asked))).record := by
  have hpairs : (pairs e.rules).filter
      (fun p => decide (p.1 ∈ FieldMap.keys (before ++ after))) = pairs (before ++ after) := by
    refine h.interleaving.symm.filter_eq_left (fun p hp => ?_) fun p hp => ?_
    · exact decide_eq_true (field_mem hp)
    · obtain ⟨rule, -, rfl⟩ := List.mem_map.mp hp
      exact decide_eq_false hfield
  rw [about_outcomeOf, List.filter_comm, hpairs]

end PermutedAt

/-- If a pass over quiet rules is completed, so is the one with the rules of a field in another
order. The failures of the field come in the order of its rules, and what is said about the other
fields stays. -/
theorem run_permuted {before after : RuleMap} {field : String} {specs others : List Spec}
    (h : e.PermutedAt d before field specs others after)
    (hcatalogue : e.catalogue = builtinFor resolves) (hquiet : e.IsQuiet)
    (hfield : field ∉ FieldMap.keys (before ++ after)) {asked : List Query} {o : Outcome}
    (ho : (e.run verifier asked).1 = .ok o) :
    ∃ o', (d.run verifier asked).1 = .ok o' ∧
      (o.about [field]).failures =
        (specs.filter fun rule => e.fails verifier asked (field, rule, specs)).map
          (fun rule => ⟨field, rule.name, rule.parameters⟩) ∧
      (o'.about [field]).failures =
        (others.filter fun rule => e.fails verifier asked (field, rule, specs)).map
          (fun rule => ⟨field, rule.name, rule.parameters⟩) ∧
      o'.about (FieldMap.keys (before ++ after)) = o.about (FieldMap.keys (before ++ after)) := by
  obtain ⟨hno, rfl⟩ := (run_eq_ok_iff_of_quiet hcatalogue hquiet).mp ho
  have hcounterpart := fun q hq => h.counterpart hcatalogue hquiet verifier (q := q) hq
  have hquiet' : d.IsQuiet := by
    intro q hq
    obtain ⟨p, hp, halike⟩ := hcounterpart q hq
    rw [← h.bags, ← halike.field, ← halike.rule]
    exact hquiet p hp
  have hno' : ∀ q ∈ pairs d.rules, d.fault? verifier asked q = none := by
    intro q hq
    obtain ⟨p, hp, halike⟩ := hcounterpart q hq
    rw [← halike.fault? h.messages]
    exact hno p hp
  have hfails : ∀ rule ∈ others, d.fails verifier asked (field, rule, others) =
      e.fails verifier asked (field, rule, specs) := fun rule hrule =>
    ((h.alike_at hcatalogue hquiet verifier (h.perm.mem_iff.mpr hrule)).fails asked).symm
  have hfails' : ∀ p ∈ pairs (before ++ after), d.fails verifier asked p =
      e.fails verifier asked p := fun p hp =>
    ((h.alike_apart hcatalogue hquiet verifier hp).fails asked).symm
  refine ⟨_, (run_eq_ok_iff_of_quiet (h.catalogue.symm.trans hcatalogue) hquiet').mpr ⟨hno', rfl⟩,
    h.about_field hfield asked, ?_, ?_⟩
  · rw [h.symm.about_field hfield asked, List.filter_congr hfails]
  · rw [h.symm.about_others hfield asked, h.about_others hfield asked, List.filter_congr hfails',
      h.messages]

end Engine

/-! ### Setups -/

/-- The same setup with other rules, at another moment. -/
def Setup.withRules (s : Setup) (rules : Declared) (now : Moment) : Setup := { s with rules, now }

theorem Setup.catalogue_of_build {setup : Setup} {e : Engine} (h : setup.build.1 = .ok e) :
    e.catalogue = setup.catalogue := by
  obtain ⟨rules, -, -, rfl⟩ := Setup.build_eq_ok_iff.mp h
  rfl

theorem Setup.keys_of_build {setup : Setup} {e : Engine} (h : setup.build.1 = .ok e) :
    e.rules.keys = setup.rules.keys := by
  obtain ⟨rules, hread, -, rfl⟩ := Setup.build_eq_ok_iff.mp h
  exact keys_readDeclared hread

/-- A setup whose rules interleave those of two others can be built if they can. -/
theorem Setup.build_interleaved {setup : Setup} {r₁ r₂ r : Declared} {now₁ now₂ : Moment}
    {e₁ e₂ : Engine} (h₁ : (setup.withRules r₁ now₁).build.1 = .ok e₁)
    (h₂ : (setup.withRules r₂ now₂).build.1 = .ok e₂) (hinter : Interleaving r₁ r₂ r)
    (hdisjoint : ∀ field ∈ r₁.keys, field ∉ r₂.keys) (now : Moment) :
    ∃ e, (setup.withRules r now).build.1 = .ok e ∧ e₁.PartOf e e₂.rules ∧ e₂.PartOf e e₁.rules := by
  have hkeys₁ : e₁.rules.keys = r₁.keys := Setup.keys_of_build h₁
  have hkeys₂ : e₂.rules.keys = r₂.keys := Setup.keys_of_build h₂
  obtain ⟨rules₁, hread₁, hknown₁, rfl⟩ := Setup.build_eq_ok_iff.mp h₁
  obtain ⟨rules₂, hread₂, hknown₂, rfl⟩ := Setup.build_eq_ok_iff.mp h₂
  obtain ⟨rules, hread, hrules⟩ := hinter.readDeclared hread₁ hread₂
  refine ⟨_, Setup.build_eq_ok_iff.mpr ⟨rules, hread, fun entry hentry => ?_, rfl⟩,
    ⟨rfl, rfl, rfl, hrules, ?_⟩, ⟨rfl, rfl, rfl, hrules.symm, ?_⟩⟩
  · exact (hrules.mem_iff.mp hentry).elim (hknown₁ entry) (hknown₂ entry)
  · rw [hkeys₁, hkeys₂]
    exact hdisjoint
  · rw [hkeys₁, hkeys₂]
    exact fun field hfield₂ hfield₁ => hdisjoint field hfield₁ hfield₂

/-- A setup that has the rules of one field in another order can be built if the other can. -/
theorem Setup.build_permuted {setup : Setup} {r r' : Declared} {now : Moment} {e : Engine}
    (hbuilt : (setup.withRules r now).build.1 = .ok e) {before after : RuleMap} {field : String}
    {specs others : List Spec} (hrules : e.rules = before ++ (field, specs) :: after)
    (hperm : specs.Perm others)
    (hread : readDeclared r' = .ok (before ++ (field, others) :: after)) (later : Moment) :
    ∃ d, (setup.withRules r' later).build.1 = .ok d ∧
      e.PermutedAt d before field specs others after := by
  obtain ⟨rules, -, hknown, rfl⟩ := Setup.build_eq_ok_iff.mp hbuilt
  obtain rfl : rules = before ++ (field, specs) :: after := hrules
  refine ⟨_, Setup.build_eq_ok_iff.mpr ⟨_, hread, ?_, rfl⟩, rfl, rfl, rfl, rfl, rfl, hperm⟩
  simp only [List.forall_mem_append, List.forall_mem_cons] at hknown ⊢
  obtain ⟨hbefore, hspecs, hafter⟩ := hknown
  exact ⟨hbefore, fun rule hrule => hspecs rule (hperm.mem_iff.mpr hrule), hafter⟩

/-- **Rules are independent of those of other fields and of their order.** Take two rule maps for
    different fields over the built-in checks, without rules on stored records and without dates
    that are told by the clock, each validated at some moment. If both passes are completed, so is
    the one of any interleaving of the two, and what it says about the fields of either is all that
    this one says, in the same order. If the rules of one field are put into another order, each
    rule is still run or passed over, and judged as it was; a completed pass is completed again,
    the failures of the field are those of its failing rules in their new order, and what is said
    about the other fields stays. -/
theorem rules_are_independent {setup : Setup} {resolves : List Char → Bool}
    (hcatalogue : setup.catalogue = builtinFor resolves) {r₁ r₂ r : Declared} {now₁ now₂ : Moment}
    {e₁ e₂ : Engine} (h₁ : (setup.withRules r₁ now₁).build.1 = .ok e₁)
    (h₂ : (setup.withRules r₂ now₂).build.1 = .ok e₂) (hquiet₁ : e₁.IsQuiet) (hquiet₂ : e₂.IsQuiet)
    (hdisjoint : ∀ field ∈ r₁.keys, field ∉ r₂.keys) (hinter : Interleaving r₁ r₂ r)
    (now : Moment) (verifier : Option Verifier) :
    (∀ o₁ o₂, (e₁.run verifier []).1 = .ok o₁ → (e₂.run verifier []).1 = .ok o₂ →
      ∃ e o, (setup.withRules r now).build.1 = .ok e ∧ (e.run verifier []).1 = .ok o ∧
        o.about r₁.keys = o₁.record ∧ o.about r₂.keys = o₂.record) ∧
    (∀ before field specs others after r', e₁.rules = before ++ (field, specs) :: after →
      field ∉ FieldMap.keys (before ++ after) → specs.Perm others →
      readDeclared r' = .ok (before ++ (field, others) :: after) →
      ∃ e, (setup.withRules r' now).build.1 = .ok e ∧
        (∀ rule ∈ specs, ∀ asked, e.judgement verifier asked (field, rule, others) =
          e₁.judgement verifier asked (field, rule, specs)) ∧
        (∀ p ∈ Engine.pairs (before ++ after), ∀ asked,
          e.judgement verifier asked p = e₁.judgement verifier asked p) ∧
        ∀ o₁, (e₁.run verifier []).1 = .ok o₁ → ∃ o, (e.run verifier []).1 = .ok o ∧
          (o₁.about [field]).failures =
            (specs.filter fun rule => e₁.fails verifier [] (field, rule, specs)).map
              (fun rule => ⟨field, rule.name, rule.parameters⟩) ∧
          (o.about [field]).failures =
            (others.filter fun rule => e₁.fails verifier [] (field, rule, specs)).map
              (fun rule => ⟨field, rule.name, rule.parameters⟩) ∧
          o.about (FieldMap.keys (before ++ after)) =
            o₁.about (FieldMap.keys (before ++ after))) := by
  have hcatalogue₁ : e₁.catalogue = builtinFor resolves :=
    (Setup.catalogue_of_build h₁).trans hcatalogue
  constructor
  · intro o₁ o₂ ho₁ ho₂
    obtain ⟨e, hbuilt, hpart₁, hpart₂⟩ := Setup.build_interleaved h₁ h₂ hinter hdisjoint now
    obtain ⟨o, ho, habout₁, habout₂⟩ := Engine.run_interleaved hpart₁ hpart₂
      (hpart₁.catalogue.symm.trans hcatalogue₁) hquiet₁ hquiet₂ ho₁ ho₂
    rw [Setup.keys_of_build h₁] at habout₁
    rw [Setup.keys_of_build h₂] at habout₂
    exact ⟨e, o, hbuilt, ho, habout₁, habout₂⟩
  · intro before field specs others after r' hrules hfield hperm hread
    obtain ⟨e, hbuilt, hpermuted⟩ := Setup.build_permuted h₁ hrules hperm hread now
    refine ⟨e, hbuilt, fun rule hrule asked => ?_, fun p hp asked => ?_, fun o₁ ho₁ => ?_⟩
    · exact ((hpermuted.alike_at hcatalogue₁ hquiet₁ verifier hrule).judgement asked).symm
    · exact ((hpermuted.alike_apart hcatalogue₁ hquiet₁ verifier hp).judgement asked).symm
    · exact Engine.run_permuted hpermuted hcatalogue₁ hquiet₁ hfield ho₁

/-- Two fields with rules on the kinds of files, of which neither is a file: the failures of the one
come as they do without the other, and in a new order when its rules change places. -/
theorem rules_are_independent_mimes :
    let png : Spec := ⟨"Mimes", ["png"]⟩
    let gif : Spec := ⟨"Mimes", ["gif"]⟩
    let setup : Setup :=
      { payload := [("icon", .text "x"), ("photo", .text "x")], rules := []
        messages := [(png.readable, "no picture")], catalogue := builtin, now := default }
    let icon : Declared := [("icon", .list [.spec png, .spec gif])]
    let photo : Declared := [("photo", .spec png)]
    (∃ e o, (setup.withRules (photo ++ icon) default).build.1 = .ok e ∧
      (e.run none []).1 = .ok o ∧
      (o.about ["icon"]).failures = [⟨"icon", "Mimes", ["png"]⟩, ⟨"icon", "Mimes", ["gif"]⟩]) ∧
    ∃ e o, (setup.withRules [("icon", .list [.spec gif, .spec png])] default).build.1 = .ok e ∧
      (e.run none []).1 = .ok o ∧
      (o.about ["icon"]).failures = [⟨"icon", "Mimes", ["gif"]⟩, ⟨"icon", "Mimes", ["png"]⟩] := by
  -- kept closed, for its keys are computed by the tables of all letters
  generalize hcatalogue : builtin = catalogue
  intro png gif setup icon photo
  have hkey : ∀ rule ∈ [png, gif], rule.key = "mimes" := by
    have hmimes : Rule.key "Mimes" = "mimes" := key_of_chars (by decide)
    simp [png, gif, Spec.key, hmimes]
  -- every rule of every such engine fails
  have hpass : ∀ declared rules, readDeclared declared = .ok rules →
      (∀ p ∈ Engine.pairs rules, p.1 ∈ ["icon", "photo"] ∧ p.2.1 ∈ [png, gif]) →
      ∃ e, (setup.withRules declared default).build.1 = .ok e ∧ e.rules = rules ∧ e.IsQuiet ∧
        (∀ p ∈ Engine.pairs rules, e.fails none [] p = true) ∧
        (e.run none []).1 = .ok (Engine.outcomeOf ⟨setup.messages, []⟩ (Engine.pairs rules)) := by
    intro declared rules hread hmem
    obtain ⟨e, hbuilt, hrules, hbuiltin, hbags, hmessages⟩ :
        ∃ e, (setup.withRules declared default).build.1 = .ok e ∧ e.rules = rules ∧
          e.catalogue = builtin ∧ e.bags = .ofPayload setup.payload ∧
          e.messages = ⟨setup.messages, []⟩ := by
      refine ⟨_, Setup.build_eq_ok_iff.mpr ⟨rules, hread, fun entry hentry rule hrule => ?_, rfl⟩,
        rfl, hcatalogue.symm, rfl, rfl⟩
      have hrule := (hmem (entry.1, rule, entry.2) (mem_pairs_iff.mpr ⟨hentry, hrule⟩)).2
      change ∃ check, catalogue.find? rule.name = some check
      rw [← hcatalogue]
      exact ⟨_, find?_builtin_mimes (hkey rule hrule)⟩
    have hquiet : e.IsQuiet := by
      intro p hp
      rw [hrules] at hp
      refine Engine.quiet_of_key ?_ ?_ <;> rw [hkey _ (hmem p hp).2] <;> decide
    have hfailed : ∀ p ∈ Engine.pairs rules,
        e.fault? none [] p = none ∧ e.fails none [] p = true := by
      intro p hp
      obtain ⟨hfield, hrule⟩ := hmem p hp
      have hvalue : e.bags.value p.1 = .ok (.text "x") ∧ p.1.isEmpty = false := by
        simp only [List.mem_cons, List.not_mem_nil, or_false] at hfield
        rw [hbags]
        rcases hfield with hfield | hfield <;> rw [hfield] <;> exact ⟨rfl, rfl⟩
      have happlies : Engine.applies p (.text "x") = true := by
        refine Engine.applies_iff.mpr ⟨Or.inl rfl, Or.inl ?_⟩
        simp [Value.isPresent, Text.allBlank, isBlank, hvalue.2]
      have hchecked : 1 ≤ p.2.1.parameters.length ∧ p.2.1.readable = png.readable := by
        simp only [List.mem_cons, List.not_mem_nil, or_false] at hrule
        rcases hrule with hrule | hrule <;> rw [hrule] <;> exact ⟨Nat.le_refl 1, rfl⟩
      have hlisted : e.messages.texts.get? p.2.1.readable = some "no picture" := by
        rw [hmessages, hchecked.2]
        exact List.lookup_cons_self ..
      obtain ⟨text, htext⟩ := Engine.resolves_of_text hlisted p.1
      exact Engine.no_fault_of_message (Engine.judgement_of_mimes hbuiltin (by rw [hbags]; rfl)
        hvalue.1 happlies (hkey _ hrule) hchecked.1 []) htext
    refine ⟨e, hbuilt, hrules, hquiet, fun p hp => (hfailed p hp).2,
      (Engine.run_eq_ok_iff_of_quiet hbuiltin hquiet).mpr ?_⟩
    rw [hrules, hmessages, List.filter_eq_self.mpr fun p hp => (hfailed p hp).2]
    exact ⟨fun p hp => (hfailed p hp).1, rfl⟩
  obtain ⟨e₁, h₁, hrules, hquiet₁, hfails, ho₁⟩ :=
    hpass icon [("icon", [png, gif])] rfl (by simp [Engine.pairs])
  obtain ⟨e₂, h₂, -, hquiet₂, -, ho₂⟩ :=
    hpass photo [("photo", [png])] rfl (by simp [Engine.pairs])
  obtain ⟨hinterleaved, hpermuted⟩ := rules_are_independent hcatalogue.symm h₁ h₂ hquiet₁ hquiet₂
    (by simp [icon, photo, FieldMap.keys]) (.right (.left .nil)) default none
  constructor
  · obtain ⟨e, o, hbuilt, ho, habout, -⟩ := hinterleaved _ _ ho₁ ho₂
    exact ⟨e, o, hbuilt, ho, congrArg Record.failures habout⟩
  · obtain ⟨e, hbuilt, -, -, hcompleted⟩ := hpermuted [] "icon" [png, gif] [gif, png] []
      [("icon", .list [.spec gif, .spec png])] hrules (by simp [FieldMap.keys]) (.swap ..) rfl
    obtain ⟨o, ho, -, hfailures, -⟩ := hcompleted _ ho₁
    have hall : ∀ rule ∈ [gif, png], e₁.fails none [] ("icon", rule, [png, gif]) = true := by
      intro rule hrule
      exact hfails _ (mem_pairs_iff.mpr
        ⟨List.mem_singleton_self _, (List.Perm.swap ..).mem_iff.mp hrule⟩)
    refine ⟨e, o, hbuilt, ho, hfailures.trans ?_⟩
    rw [List.filter_eq_self.mpr hall]
    rfl

end PayloadCheck.Check
