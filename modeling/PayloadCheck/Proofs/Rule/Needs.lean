import PayloadCheck.Proofs.Rule.Identifier
import PayloadCheck.Proofs.Value.LongNumbers
import PayloadCheck.Rule.Config

/-!
# What a configuration has to offer

Reading a configuration asks for one thing after the other: that a value can be written, that the
text of a value names a rule, that a section has its form (`Need`). A step of the reading follows a
list of needs if it succeeds only where all of them are met, and otherwise fails with the fault
of the first one that is not (`Follows`). Steps put together follow their needs put together, so a
configuration is read, or is refused as one, unless the first thing missing is the text of a value
or the name of a rule. Main statement: `config_is_read_or_refused_iff`.
-/

namespace PayloadCheck.Rule

variable {α β : Type}

/-! ### Needs -/

/-- What is asked for at one place of a configuration. -/
inductive Need where
  /-- A value can be written. -/
  | written (v : Value)
  /-- In the text of a value stands anything but gaps, so that it names a rule. -/
  | named (v : Value)
  /-- The place has its form. -/
  | form (holds : Prop)

namespace Need

/-- What is meant by a need. -/
def Met : Need → Prop
  | written v => ¬ v.HasLongNumber
  | named v => ∀ s, v.plain = .ok s → ∃ c ∈ s.toList, isWordGap c = false
  | form holds => holds

/-- The faults that tell of a need. -/
def Explains : Need → Fault → Prop
  | written _, fault => fault = Value.tooManyDigits
  | named _, fault => fault = .invalidModel 1 "RuleSpec"
  | form _, fault => ∃ detail, fault = .configuration detail

/-- The first need of a list that is not met. -/
inductive FirstUnmet : List Need → Need → Prop
  | here {n : Need} {rest : List Need} (unmet : ¬ n.Met) : FirstUnmet (n :: rest) n
  | later {m n : Need} {rest : List Need} (met : m.Met) (h : FirstUnmet rest n) :
      FirstUnmet (m :: rest) n

variable {n m : Need} {needs more : List Need}

theorem FirstUnmet.unique (hn : FirstUnmet needs n) (hm : FirstUnmet needs m) : n = m := by
  induction hn with
  | here unmet =>
    cases hm with
    | here => rfl
    | later met => exact absurd met unmet
  | later met _ ih =>
    cases hm with
    | here unmet => exact absurd met unmet
    | later _ h => exact ih h

theorem FirstUnmet.not_all (h : FirstUnmet needs n) : ¬ ∀ m ∈ needs, m.Met := by
  induction h with
  | here unmet => exact fun hall => unmet (hall _ (List.mem_cons_self ..))
  | later _ _ ih => exact fun hall => ih fun m hm => hall m (List.mem_cons_of_mem _ hm)

theorem FirstUnmet.append (h : FirstUnmet needs n) : FirstUnmet (needs ++ more) n := by
  induction h with
  | here unmet => exact .here unmet
  | later met _ ih => exact .later met ih

theorem FirstUnmet.after (hneeds : ∀ m ∈ needs, m.Met) (h : FirstUnmet more n) :
    FirstUnmet (needs ++ more) n := by
  induction needs with
  | nil => exact h
  | cons m rest ih =>
    obtain ⟨hm, hrest⟩ := List.forall_mem_cons.mp hneeds
    exact .later hm (ih hrest)

end Need

open Need

/-! ### Steps that follow needs -/

/-- A step succeeds only where its needs are met, and else fails with a fault that tells of the
first one that is not. -/
structure Follows (needs : List Need) (step : Except Fault α) : Prop where
  met : ∀ a, step = .ok a → ∀ n ∈ needs, n.Met
  unmet : ∀ fault, step = .error fault → ∃ n, FirstUnmet needs n ∧ n.Explains fault

variable {needs more : List Need} {step : Except Fault α}

theorem Follows.ok (hneeds : ∀ n ∈ needs, n.Met) (a : α) :
    Follows needs (.ok a : Except Fault α) where
  met _ _ := hneeds
  unmet _ h := nomatch h

theorem Follows.nil (a : α) : Follows [] (.ok a : Except Fault α) := .ok (by simp) a

theorem Follows.error {n : Need} {fault : Fault} (unmet : ¬ n.Met) (hfault : n.Explains fault) :
    Follows (n :: needs) (.error fault : Except Fault α) where
  met _ h := nomatch h
  unmet _ h := ⟨n, .here unmet, Except.error.inj h ▸ hfault⟩

theorem Follows.bind {next : α → Except Fault β} (h : Follows needs step)
    (hnext : ∀ a, step = .ok a → Follows more (next a)) :
    Follows (needs ++ more) (step >>= next) where
  met b hb := by
    obtain ⟨a, ha, hb⟩ := Fault.bind_eq_ok_iff.mp hb
    exact List.forall_mem_append.mpr ⟨h.met a ha, (hnext a ha).met b hb⟩
  unmet fault hfault := by
    rcases Fault.bind_eq_error_iff.mp hfault with hstep | ⟨a, ha, hrest⟩
    · obtain ⟨n, hn, htells⟩ := h.unmet fault hstep
      exact ⟨n, hn.append, htells⟩
    · obtain ⟨n, hn, htells⟩ := (hnext a ha).unmet fault hrest
      exact ⟨n, .after (h.met a ha) hn, htells⟩

theorem Follows.return (h : Follows needs step) (f : α → β) :
    Follows needs (step >>= fun a => pure (f a)) := by
  have hbind : Follows (needs ++ []) (step >>= fun a => pure (f a)) :=
    h.bind fun a _ => .nil (f a)
  rwa [List.append_nil] at hbind

theorem Follows.map (h : Follows needs step) (f : α → β) : Follows needs (f <$> step) := by
  rw [map_eq_pure_bind]
  exact h.return f

theorem Follows.mapM {needsOf : α → List Need} {f : α → Except Fault β}
    (h : ∀ a, Follows (needsOf a) (f a)) (as : List α) :
    Follows (as.flatMap needsOf) (as.mapM f) := by
  induction as with
  | nil => exact .nil []
  | cons a rest ih =>
    rw [List.mapM_cons, List.flatMap_cons]
    exact (h a).bind fun b _ => ih.return _

theorem Follows.of_error_iff {v : Value}
    (h : ∀ fault, step = .error fault ↔ fault = Value.tooManyDigits ∧ v.HasLongNumber) :
    Follows [.written v] step where
  met a ha := by
    rw [List.forall_mem_singleton]
    intro hlong
    have herror := (h _).mpr ⟨rfl, hlong⟩
    cases ha.symm.trans herror
  unmet fault hfault := by
    obtain ⟨rfl, hlong⟩ := (h fault).mp hfault
    exact ⟨_, .here (not_not_intro hlong), rfl⟩

theorem follows_plain (v : Value) : Follows [.written v] v.plain :=
  .of_error_iff v.plain_eq_error_iff

theorem follows_shown (v : Value) : Follows [.written v] v.shown :=
  .of_error_iff v.shown_eq_error_iff

/-- A place whose form is wrong. -/
theorem Follows.malformed (detail : String) :
    Follows [.form False] (.error (.configuration detail) : Except Fault α) :=
  .error id ⟨detail, rfl⟩

/-! ### The needs of a configuration -/

/-- The needs of one item in the list of a field's rules. -/
def itemNeeds : Value → List Need
  | .text _ => []
  | .map entries =>
    match Value.field? "rule" entries with
    | none => [.form False]
    | some rule => .written rule :: ((configParameters entries).map .written ++ [.named rule])
  | v => [.written v, .form False]

/-- The needs of a field's rules. -/
def rulesNeeds : Value → List Need
  | .text _ => []
  | .list items => items.flatMap itemNeeds
  | _ => [.form False]

/-- The needs of a field and its rules. -/
def fieldNeeds (field : Value × Value) : List Need := .written field.1 :: rulesNeeds field.2

/-- The needs of the section of the rules. -/
def sectionNeeds : Option Value → List Need
  | some (.map fields) => fields.flatMap fieldNeeds
  | _ => [.form False]

/-- The needs of the section of the name. -/
def nameNeeds : Option Value → List Need
  | some v => if v.truth then [.written v] else []
  | none => []

/-- The needs of a section of texts. -/
def textNeeds : Option Value → List Need
  | some v =>
    if !v.truth then []
    else match v with
      | .map entries => entries.flatMap fun entry => [.written entry.1, .written entry.2]
      | _ => [.form False]
  | none => []

/-- A configuration has a name that is not empty, of its own or from its surroundings. -/
def HasName (default : String) : Option Value → Prop
  | some v => if v.truth then v.plain ≠ .ok "" else default ≠ ""
  | none => default ≠ ""

/-- The needs of a configuration, in the order in which it is read. -/
def configNeeds (entries : List (Value × Value)) (default : String) : List Need :=
  sectionNeeds (Value.field? "rules" entries) ++
    (nameNeeds (Value.field? "name" entries) ++
      (textNeeds (Value.field? "messages" entries) ++
        (textNeeds (Value.field? "attributes" entries) ++
          [.form (HasName default (Value.field? "name" entries))])))

theorem follows_parameterTexts (vs : List Value) :
    Follows (vs.map .written) (Builder.parameterTexts vs) := by
  induction vs with
  | nil => exact .nil []
  | cons v rest ih => exact (follows_plain v).bind fun s _ => ih.return _

theorem follows_specOf (rule : Value) (vs : List Value) :
    Follows (.written rule :: (vs.map .written ++ [.named rule])) (Builder.specOf rule vs) := by
  refine (follows_plain rule).bind fun s hs => (follows_parameterTexts vs).bind fun texts _ => ?_
  have hmet : (Need.named rule).Met ↔ identifier s ≠ "" := by
    rw [identifier_ne_iff]
    exact ⟨fun h => h s hs, fun h t ht => Except.ok.inj (hs.symm.trans ht) ▸ h⟩
  by_cases hname : identifier s = ""
  · have hunmet : ¬ (Need.named rule).Met := fun h => hmet.mp h hname
    simp only [hname]
    exact .error hunmet rfl
  · have hne : (identifier s).isEmpty = false := by simpa using hname
    simp only [hne]
    exact .ok (List.forall_mem_singleton.mpr (hmet.mpr hname)) _

theorem follows_readConfigRule (field : String) (v : Value) :
    Follows (itemNeeds v) (readConfigRule field v) := by
  cases v with
  | text s => exact .nil _
  | map entries =>
    cases hrule : Value.field? "rule" entries with
    | none =>
      simp only [itemNeeds, readConfigRule, hrule]
      exact .malformed _
    | some rule =>
      simp only [itemNeeds, readConfigRule, hrule]
      exact (follows_specOf rule (configParameters entries)).map Entry.spec
  | _ => exact (follows_shown _).bind fun _ _ => .malformed _

theorem follows_readConfigRules (field : String) (v : Value) :
    Follows (rulesNeeds v) (readConfigRules field v) := by
  cases v with
  | text s => exact .nil _
  | list items => exact (Follows.mapM (follows_readConfigRule field) items).return _
  | _ => exact .malformed _

theorem follows_readConfigSection (section_ : Option Value) :
    Follows (sectionNeeds section_) (readConfigSection section_) := by
  have hfield : ∀ field : Value × Value, Follows (fieldNeeds field) (do
      let name ← field.1.plain
      return (name, ← readConfigRules name field.2)) := fun field =>
    (follows_plain field.1).bind fun name _ => (follows_readConfigRules name field.2).return _
  rcases section_ with _ | v
  · exact .malformed _
  · cases v with
    | map fields => exact (Follows.mapM hfield fields).return _
    | _ => exact .malformed _

theorem follows_readConfigName (section_ : Option Value) (default : String) :
    Follows (nameNeeds section_) (readConfigName section_ default) := by
  rcases section_ with _ | v
  · exact .nil default
  · unfold nameNeeds readConfigName
    by_cases htruth : v.truth = true
    · simp only [htruth, if_true]
      exact follows_plain v
    · simp only [htruth]
      exact .nil default

theorem follows_readConfigTexts (section_ : Option Value) :
    Follows (textNeeds section_) (readConfigTexts section_) := by
  have hentry : ∀ entry : Value × Value, Follows [.written entry.1, .written entry.2] (do
      return (← entry.1.plain, ← entry.2.plain)) := fun entry =>
    (follows_plain entry.1).bind fun key _ => (follows_plain entry.2).return _
  rcases section_ with _ | v
  · exact .nil _
  · unfold textNeeds readConfigTexts
    by_cases htruth : v.truth = true
    · simp only [htruth]
      cases v with
      | map entries => exact (Follows.mapM hentry entries).return _
      | _ => exact .malformed _
    · simp only [htruth]
      exact .nil _

/-- The name that is read is empty iff a configuration has none. -/
theorem hasName_iff {section_ : Option Value} {default name : String}
    (h : readConfigName section_ default = .ok name) : HasName default section_ ↔ name ≠ "" := by
  rcases section_ with _ | v
  · cases h
    exact Iff.rfl
  · simp only [HasName, readConfigName] at h ⊢
    by_cases htruth : v.truth = true
    · rw [if_pos htruth] at h ⊢
      rw [h]
      exact not_congr ⟨Except.ok.inj, congrArg _⟩
    · rw [if_neg htruth] at h ⊢
      cases h
      exact Iff.rfl

theorem follows_ofParts {section_ : Option Value} {default name : String}
    (h : readConfigName section_ default = .ok name) (rules : FieldMap Entries)
    (messages names : FieldMap String) :
    Follows [.form (HasName default section_)]
      ((RuleSet.ofParts name rules messages names).mapError
        fun fault => invalidConfig fault.message) := by
  have hmet : (Need.form (HasName default section_)).Met ↔ name ≠ "" := hasName_iff h
  unfold RuleSet.ofParts fitSetName
  by_cases hname : name = ""
  · rw [dif_neg (not_not_intro hname)]
    exact .error (fun hform => hmet.mp hform hname) ⟨_, rfl⟩
  · rw [dif_pos hname]
    exact .ok (List.forall_mem_singleton.mpr (hmet.mpr hname)) _

theorem follows_ofSections (entries : List (Value × Value)) (default : String) :
    Follows (configNeeds entries default) (RuleSet.ofSections entries default) :=
  (follows_readConfigSection _).bind fun rules _ =>
    (follows_readConfigName _ default).bind fun _ hname =>
      (follows_readConfigTexts _).bind fun messages _ =>
        (follows_readConfigTexts _).bind fun names _ => follows_ofParts hname rules messages names

/-! ### Configurations that are refused -/

section

variable {result : Except Fault α}

theorem Follows.ok_iff (h : Follows needs result) :
    (∃ a, result = .ok a) ↔ ∀ n ∈ needs, n.Met := by
  constructor
  · rintro ⟨a, ha⟩
    exact h.met a ha
  · intro hall
    cases result with
    | ok a => exact ⟨a, rfl⟩
    | error fault =>
      obtain ⟨n, hn, -⟩ := h.unmet fault rfl
      exact absurd hall hn.not_all

/-- A fault that tells of one kind of need arises iff the first unmet need is of that kind. -/
theorem Follows.error_iff {told : Fault → Prop} {kind : Need → Prop} (h : Follows needs result)
    (hkind : ∀ n fault, n.Explains fault → (told fault ↔ kind n)) :
    (∃ fault, result = .error fault ∧ told fault) ↔ ∃ n, FirstUnmet needs n ∧ kind n := by
  cases result with
  | ok a =>
    constructor
    · rintro ⟨fault, hfault, -⟩
      cases hfault
    · rintro ⟨n, hn, -⟩
      exact absurd (h.met a rfl) hn.not_all
  | error fault =>
    obtain ⟨n, hn, htells⟩ := h.unmet fault rfl
    constructor
    · rintro ⟨other, hother, htold⟩
      cases hother
      exact ⟨n, hn, (hkind n fault htells).mp htold⟩
    · rintro ⟨m, hm, hm'⟩
      cases hn.unique hm
      exact ⟨fault, rfl, (hkind n fault htells).mpr hm'⟩

end

theorem tells_of_form (n : Need) (fault : Fault) (h : n.Explains fault) :
    (∃ detail, fault = .configuration detail) ↔ ∃ holds, n = .form holds := by
  cases n with
  | form holds => exact iff_of_true h ⟨holds, rfl⟩
  | _ => cases h; simp [Value.tooManyDigits]

theorem tells_of_written (n : Need) (fault : Fault) (h : n.Explains fault) :
    fault = Value.tooManyDigits ↔ ∃ v, n = .written v := by
  cases n with
  | written v => exact iff_of_true h ⟨v, rfl⟩
  | named v => cases h; simp [Value.tooManyDigits]
  | form holds => obtain ⟨detail, rfl⟩ := h; simp [Value.tooManyDigits]

theorem tells_of_named (n : Need) (fault : Fault) (h : n.Explains fault) :
    fault = .invalidModel 1 "RuleSpec" ↔ ∃ v, n = .named v := by
  cases n with
  | named v => exact iff_of_true h ⟨v, rfl⟩
  | written v => cases h; simp [Value.tooManyDigits]
  | form holds => obtain ⟨detail, rfl⟩ := h; simp

end PayloadCheck.Rule
