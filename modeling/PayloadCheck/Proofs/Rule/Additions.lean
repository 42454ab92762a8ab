import PayloadCheck.Proofs.Rule.Merging
import PayloadCheck.Rule.Workbench

/-!
# What steps add up to

A step adds a small builder of its own to the one that is there (`Builder.apply_eq_join`), and what
it adds, or the fault that it ends with, does not depend on what is there. Joining is associative,
so steps add up by themselves, and their sum is joined to the builder as one (`Builder.after_join`).
Building takes the values of a builder one by one (`Builder.build_eq_ok_iff`); therefore what is
built of joined builders is what their rule sets merge into (`Builder.parts_of_join`).
-/

namespace PayloadCheck

/-! ### Values that fit -/

namespace Fit

variable {α β : Type}

theorem both_eq_fits_iff {a : Fit α} {b : Fit β} {x : α} {y : β} :
    a.both b = .fits (x, y) ↔ a = .fits x ∧ b = .fits y := by
  cases a <;> cases b <;> simp [both]

theorem map_eq_fits_iff {f : α → β} {a : Fit α} {y : β} :
    a.map f = .fits y ↔ ∃ x, a = .fits x ∧ f x = y := by
  cases a <;> simp [map]

theorem orFault_eq_ok_iff {model : String} {a : Fit α} {x : α} :
    a.orFault model = .ok x ↔ a = .fits x := by
  cases a <;> simp [orFault]

/-- Several parts fit iff each does; then each gives what it is known to give. -/
theorem all_map_eq_fits_iff {f : α → Fit β} {g : α → β} (hg : ∀ a b, f a = .fits b → g a = b)
    (as : List α) {bs : List β} :
    Fit.all (as.map f) = .fits bs ↔ (∀ a ∈ as, ∃ b, f a = .fits b) ∧ bs = as.map g := by
  induction as generalizing bs with
  | nil => simp [all, eq_comm]
  | cons a rest ih =>
    rw [List.map_cons, all, map_eq_fits_iff, List.forall_mem_cons, List.map_cons]
    constructor
    · rintro ⟨⟨b, more⟩, hboth, rfl⟩
      obtain ⟨hfirst, hmore⟩ := both_eq_fits_iff.mp hboth
      obtain ⟨hrest, rfl⟩ := ih.mp hmore
      exact ⟨⟨⟨b, hfirst⟩, hrest⟩, by rw [hg a b hfirst]⟩
    · rintro ⟨⟨⟨b, hfirst⟩, hrest⟩, rfl⟩
      refine ⟨(b, rest.map g), both_eq_fits_iff.mpr ⟨hfirst, ih.mpr ⟨hrest, rfl⟩⟩, ?_⟩
      rw [hg a b hfirst]

end Fit

namespace Rule

namespace Builder

/-! ### Steps -/

/-- A step on a builder that is a value. -/
def apply (b : Builder) : Step → Except Fault Builder
  | .rule field given parameters => b.rule field given parameters
  | .required field => .ok (b.required field)
  | .between field least greatest => b.between field least greatest
  | .regex field pattern => b.regex field pattern
  | .message key text => .ok (b.message key text)
  | .shownName field text => .ok (b.shownName field text)

/-- The builder after steps; one that ends with a fault leaves it as it was. -/
def after (b : Builder) (steps : List Step) : Builder :=
  steps.foldl (fun b step => (b.apply step).toOption.getD b) b

/-- Rules of a field behind those that are there. -/
def joinRules (old : Option (List Value)) (more : List Value) : List Value := old.getD [] ++ more

/-- A builder with all that another one has behind what it has itself. -/
def join (b d : Builder) : Builder where
  name := b.name
  rules := b.rules.combine joinRules d.rules
  messages := b.messages.merge d.messages
  names := b.names.merge d.names

/-- No field, no message and no shown name has two entries. -/
structure Keyed (b : Builder) : Prop where
  rules : b.rules.keys.Nodup
  messages : b.messages.keys.Nodup
  names : b.names.keys.Nodup

theorem Keyed.new (name : String) : ({ name } : Builder).Keyed :=
  ⟨List.nodup_nil, List.nodup_nil, List.nodup_nil⟩

variable {b c d : Builder}

theorem Keyed.join (hb : b.Keyed) (d : Builder) : (b.join d).Keyed where
  rules := FieldMap.nodup_keys_combine joinRules hb.rules d.rules
  messages := FieldMap.nodup_keys_merge hb.messages d.messages
  names := FieldMap.nodup_keys_merge hb.names d.names

theorem join_assoc (hb : b.Keyed) (hc : c.Keyed) (hd : d.Keyed) :
    (b.join c).join d = b.join (c.join d) := by
  have hrules : (b.rules.combine joinRules c.rules).combine joinRules d.rules =
      b.rules.combine joinRules (c.rules.combine joinRules d.rules) := by
    apply FieldMap.combine_assoc joinRules _ _ hb.rules hc.rules hd.rules
    · intro old v w
      simp [joinRules]
    · intro old w
      simp [joinRules]
  simp only [Builder.join, hrules, FieldMap.merge_assoc hb.messages hc.messages hd.messages,
    FieldMap.merge_assoc hb.names hc.names hd.names]

theorem join_new (b : Builder) (name : String) : b.join { name } = b := rfl

theorem rule_eq_join (b : Builder) (name field : String) (given : Value) (parameters : List Value) :
    b.rule field given parameters =
      b.join <$> ({ name } : Builder).rule field given parameters := by
  unfold rule
  split
  · rfl
  · cases specOf given parameters <;> rfl

/-- A step joins what it makes of a new builder to the builder that is there. -/
theorem apply_eq_join (b : Builder) (name : String) (step : Step) :
    b.apply step = b.join <$> ({ name } : Builder).apply step := by
  cases step with
  | rule field given parameters => exact b.rule_eq_join name field given parameters
  | between field least greatest =>
    simp only [apply, between]
    cases isBound least <;> cases isBound greatest
    · rfl
    all_goals exact b.rule_eq_join name field _ _
  | regex field pattern => exact b.rule_eq_join name field (.text "regex") [pattern]
  | required field => rfl
  | message key text => rfl
  | shownName field text => rfl

theorem Keyed.of_apply {name : String} {step : Step}
    (h : ({ name } : Builder).apply step = .ok d) : d.Keyed := by
  have hjoin := apply_eq_join { name } name step
  rw [h] at hjoin
  rw [Except.ok.inj hjoin]
  exact (Keyed.new name).join d

theorem after_cons (b : Builder) (step : Step) (rest : List Step) :
    b.after (step :: rest) = ((b.apply step).toOption.getD b).after rest := rfl

theorem after_append (b : Builder) (s t : List Step) : b.after (s ++ t) = (b.after s).after t :=
  List.foldl_append

/-- Steps join what they add up to. -/
theorem after_join (hb : b.Keyed) (hd : d.Keyed) (steps : List Step) :
    (b.join d).after steps = b.join (d.after steps) := by
  induction steps generalizing d with
  | nil => rfl
  | cons step rest ih =>
    rw [after_cons, after_cons, apply_eq_join (b.join d) "", apply_eq_join d ""]
    -- both builders get the same addition, or keep what they have
    cases hadds : ({ name := "" } : Builder).apply step with
    | error fault => exact ih hd
    | ok added =>
      have hassoc := join_assoc hb hd (.of_apply hadds)
      exact (congrArg (after · rest) hassoc).trans (ih (hd.join added))

theorem Keyed.after (hb : b.Keyed) (steps : List Step) : (b.after steps).Keyed := by
  have hsteps := after_join hb (.new "") steps
  rw [join_new] at hsteps
  exact hsteps ▸ hb.join _

theorem after_append_eq_join (name : String) (s t : List Step) :
    ({ name } : Builder).after (s ++ t) =
      (({ name } : Builder).after s).join (({ name } : Builder).after t) := by
  have hnew := Keyed.new name
  rw [after_append, ← after_join (hnew.after s) hnew t, join_new]

theorem name_apply {step : Step} (h : b.apply step = .ok d) : d.name = b.name := by
  rw [apply_eq_join b ""] at h
  cases hadds : ({ name := "" } : Builder).apply step with
  | error fault =>
    rw [hadds] at h
    cases h
  | ok added =>
    rw [hadds] at h
    obtain rfl := Except.ok.inj h
    rfl

/-! ### Building -/

/-- Every rule of a list is a text or a specification, or can be taken as one. -/
def FitAll (rules : List Value) : Prop := ∀ rule ∈ rules, ∃ e, Entry.fit rule = .fits e

/-- The rules of all fields fit. -/
def Fits (b : Builder) : Prop := ∀ entry ∈ b.rules, FitAll entry.2

/-- The rule that a value is taken as. -/
def entryOf (rule : Value) : Entry :=
  match Entry.fit rule with
  | .fits e => e
  | .misfits _ => default

/-- The rules of a field as those of a rule set. -/
def listed (rules : List Value) : Entries := .listed (rules.map entryOf)

/-- The rules of a builder as those of a rule set. -/
def entries (b : Builder) : FieldMap Entries := b.rules.map fun entry => (entry.1, listed entry.2)

theorem entryOf_eq (rule : Value) (e : Entry) (h : Entry.fit rule = .fits e) :
    entryOf rule = e := by
  simp only [entryOf, h]

theorem fit_list_iff {rules : List Value} {es : Entries} :
    Entries.fit (.list rules) = .fits es ↔ FitAll rules ∧ es = listed rules := by
  have hall : ∀ {es}, Fit.all (rules.map Entry.fit) = .fits es ↔ _ :=
    Fit.all_map_eq_fits_iff entryOf_eq rules
  unfold Entries.fit
  simp only [Value.text?, Value.fitItems, Value.items?]
  cases hfit : Fit.all (rules.map Entry.fit) with
  | fits entries =>
    obtain ⟨hrules, rfl⟩ := hall.mp hfit
    rw [Fit.fits.injEq]
    exact ⟨fun h => ⟨hrules, h.symm⟩, fun h => h.2.symm⟩
  | misfits n =>
    have hnot : ¬ FitAll rules := fun h => by
      rw [hall.mpr ⟨h, rfl⟩] at hfit
      cases hfit
    simp [hnot]

theorem fitFields_rules_iff (b : Builder) {rules : FieldMap Entries} :
    fitFields Entries.fit (b.rules.map fun (field, rules) => (field, .list rules)) = .fits rules ↔
      b.Fits ∧ rules = b.entries := by
  rw [fitFields, List.map_map]
  refine (Fit.all_map_eq_fits_iff
    (g := fun entry => (entry.1, listed entry.2)) ?_ b.rules).trans ?_
  · rintro ⟨field, rules⟩ entry hfit
    obtain ⟨es, hes, rfl⟩ := Fit.map_eq_fits_iff.mp hfit
    rw [(fit_list_iff.mp hes).2]
  · simp [Fits, entries, Fit.map_eq_fits_iff, fit_list_iff]

theorem fitFields_texts (texts : FieldMap String) :
    fitFields Value.fitText (texts.map fun (key, s) => (key, .text s)) = .fits texts := by
  rw [fitFields, List.map_map]
  have heach : ∀ (entry fitting : String × String), Fit.fits entry = .fits fitting →
      id entry = fitting := fun _ _ h => Fit.fits.inj h
  exact (Fit.all_map_eq_fits_iff heach texts).mpr
    ⟨fun entry _ => ⟨entry, rfl⟩, (List.map_id texts).symm⟩

theorem fitSetName_eq_fits_iff {name : String} {own : { name : String // name ≠ "" }} :
    fitSetName name = .fits own ↔ own.1 = name := by
  unfold fitSetName
  split
  · rw [Fit.fits.injEq, Subtype.ext_iff, eq_comm]
  · next h =>
    have hne : own.1 ≠ name := fun heq => h (heq ▸ own.2)
    simp [hne]

/-- What is built has the name of the builder and, rule by rule, what is in it. -/
theorem build_eq_ok_iff {b : Builder} {s : RuleSet} :
    b.build = .ok s ↔ s.name = b.name ∧ b.Fits ∧ s.rules = b.entries ∧
      s.messages = b.messages ∧ s.names = b.names := by
  obtain ⟨name, name_ne, rules, messages, names⟩ := s
  rw [build, RuleSet.ofValues, fitFields_texts, fitFields_texts, Fit.orFault_eq_ok_iff,
    Fit.map_eq_fits_iff]
  constructor
  · rintro ⟨⟨own, rules, messages, names⟩, hparts, heq⟩
    obtain ⟨hname, hparts⟩ := Fit.both_eq_fits_iff.mp hparts
    obtain ⟨hrules, htexts⟩ := Fit.both_eq_fits_iff.mp hparts
    cases heq
    cases htexts
    obtain ⟨hfits, rfl⟩ := b.fitFields_rules_iff.mp hrules
    exact ⟨fitSetName_eq_fits_iff.mp hname, hfits, rfl, rfl, rfl⟩
  · rintro ⟨hname, hfits, rfl, rfl, rfl⟩
    refine ⟨(⟨name, name_ne⟩, b.entries, b.messages, b.names), ?_, rfl⟩
    exact Fit.both_eq_fits_iff.mpr ⟨fitSetName_eq_fits_iff.mpr hname,
      Fit.both_eq_fits_iff.mpr ⟨b.fitFields_rules_iff.mpr ⟨hfits, rfl⟩, rfl⟩⟩

theorem exists_build_iff {b : Builder} : (∃ s, b.build = .ok s) ↔ b.name ≠ "" ∧ b.Fits := by
  simp only [build_eq_ok_iff]
  constructor
  · rintro ⟨s, hname, hfits, -⟩
    exact ⟨hname ▸ s.name_ne, hfits⟩
  · rintro ⟨hname, hfits⟩
    exact ⟨⟨b.name, hname, b.entries, b.messages, b.names⟩, rfl, hfits, rfl, rfl, rfl⟩

/-! ### Building what was joined -/

theorem fits_join_iff : (b.join d).Fits ↔ b.Fits ∧ d.Fits := by
  have hnone : ∀ more, FitAll (joinRules none more) ↔ FitAll more := fun more => by
    simp [joinRules]
  have hsome : ∀ old more, FitAll (joinRules (some old) more) ↔ FitAll old ∧ FitAll more :=
    fun old more => List.forall_mem_append
  exact FieldMap.forall_mem_combine hnone hsome b.rules d.rules

theorem entries_join : (b.join d).entries = b.entries.combine joinEntries d.entries := by
  have hjoin : ∀ old more,
      listed (joinRules old more) = joinEntries (old.map listed) (listed more) := by
    intro old more
    cases old <;> simp [joinRules, joinEntries, listed, Entries.toList]
  exact FieldMap.map_combine listed listed hjoin b.rules d.rules

theorem listEntries_entries (b : Builder) : listEntries b.entries = b.entries := by
  simp [listEntries, entries, listed, Entries.toList]

/-- What is built of joined builders is what the sets built of each are merged into. -/
theorem parts_of_join {whole first second : RuleSet} (hwhole : (b.join d).build = .ok whole)
    (hfirst : b.build = .ok first) (hsecond : d.build = .ok second) :
    whole.rules = (first.merge second).rules ∧
      whole.messages = (first.merge second).messages ∧
      whole.names = (first.merge second).names := by
  obtain ⟨-, -, hrules, hmessages, hnames⟩ := build_eq_ok_iff.mp hwhole
  obtain ⟨-, -, hrules₁, hmessages₁, hnames₁⟩ := build_eq_ok_iff.mp hfirst
  obtain ⟨-, -, hrules₂, hmessages₂, hnames₂⟩ := build_eq_ok_iff.mp hsecond
  rw [RuleSet.merge_eq, hrules, hmessages, hnames, hrules₁, hmessages₁, hnames₁, hrules₂,
    hmessages₂, hnames₂, listEntries_entries]
  exact ⟨entries_join, rfl, rfl⟩

/-! ### Steps that fit -/

theorem fits_push_iff {name field : String} {rule : Value} :
    (({ name } : Builder).push field rule).Fits ↔ ∃ e, Entry.fit rule = .fits e := by
  simp [Fits, FitAll, push, FieldMap.alter]

/-- A rule with parameters fits, for it becomes a specification. -/
theorem fits_rule {name field : String} {given : Value} {parameters : List Value}
    (h : ({ name } : Builder).rule field given parameters = .ok d) :
    d.Fits ↔ (parameters = [] → ∃ e, Entry.fit given = .fits e) := by
  cases parameters with
  | nil =>
    obtain rfl := Except.ok.inj h
    exact fits_push_iff.trans ⟨fun hfits _ => hfits, fun hfits => hfits rfl⟩
  | cons first rest =>
    obtain ⟨spec, -, hpush⟩ := Fault.bind_eq_ok_iff.mp h
    obtain rfl := Except.ok.inj hpush
    exact fits_push_iff.trans (iff_of_true ⟨.spec spec, rfl⟩ fun hnil => nomatch hnil)

end Builder

/-- What a step adds fits: a rule that is added as it stands is a text or a specification. -/
def Step.Fits : Step → Prop
  | .rule _ given parameters => parameters = [] → ∃ e, Entry.fit given = .fits e
  | _ => True

namespace Builder

variable {b d : Builder}

theorem fits_apply {name : String} {step : Step} (h : ({ name } : Builder).apply step = .ok d) :
    d.Fits ↔ step.Fits := by
  have hspec : ∀ {field : String} {given first : Value} {rest : List Value},
      ({ name } : Builder).rule field given (first :: rest) = .ok d → (d.Fits ↔ True) :=
    fun hrule => iff_of_true ((fits_rule hrule).mpr fun hnil => nomatch hnil) trivial
  cases step with
  | rule field given parameters => exact fits_rule h
  | required field =>
    obtain rfl := Except.ok.inj h
    exact iff_of_true (fits_push_iff.mpr ⟨.token "required", rfl⟩) trivial
  | between field least greatest =>
    simp only [apply, between] at h
    split at h
    · exact hspec h
    · exact hspec h
    · exact hspec h
    · obtain rfl := Except.ok.inj h
      exact iff_of_true (fun entry hmem => nomatch hmem) trivial
  | regex field pattern => exact hspec h
  | message key text =>
    obtain rfl := Except.ok.inj h
    exact iff_of_true (fun entry hmem => nomatch hmem) trivial
  | shownName field text =>
    obtain rfl := Except.ok.inj h
    exact iff_of_true (fun entry hmem => nomatch hmem) trivial

/-- A step that ends with a fault has not tried to add a rule as it stands. -/
theorem fits_of_fault {name : String} {step : Step} {fault : Fault}
    (h : ({ name } : Builder).apply step = .error fault) : step.Fits := by
  cases step with
  | rule field given parameters =>
    rintro rfl
    cases h
  | _ => trivial

theorem fits_after_iff (b : Builder) (steps : List Step) :
    (b.after steps).Fits ↔ b.Fits ∧ ∀ step ∈ steps, step.Fits := by
  induction steps generalizing b with
  | nil => simp [after]
  | cons step rest ih =>
    rw [after_cons, ih, apply_eq_join b "", List.forall_mem_cons]
    cases hadds : ({ name := "" } : Builder).apply step with
    | error fault => exact and_congr_right fun _ => (and_iff_right (fits_of_fault hadds)).symm
    | ok added =>
      have hfits : (b.join added).Fits ↔ b.Fits ∧ step.Fits := by
        rw [fits_join_iff, fits_apply hadds]
      exact (and_congr_left' hfits).trans and_assoc

theorem name_after (b : Builder) (steps : List Step) : (b.after steps).name = b.name := by
  induction steps generalizing b with
  | nil => rfl
  | cons step rest ih =>
    rw [after_cons, ih]
    cases happly : b.apply step with
    | error fault => rfl
    | ok d => exact name_apply happly

/-- A builder with a name builds a set after steps that fit, and after no others. -/
theorem exists_build_after_iff (name : String) (steps : List Step) :
    (∃ s, (({ name } : Builder).after steps).build = .ok s) ↔
      name ≠ "" ∧ ∀ step ∈ steps, step.Fits := by
  have hnew : ({ name } : Builder).Fits := fun entry hmem => nomatch hmem
  rw [exists_build_iff, name_after, fits_after_iff, and_iff_right hnew]

end Builder

end Rule

end PayloadCheck
