import PayloadCheck.Check.Outcome
import PayloadCheck.Proofs.Check.Placeholders

/-!
# Records and what is made of them

A failure is added to a record together with its message or not at all, so the two lists of a record
stay aligned whatever is added (`Record.aligned_afterAll`). Both views of an outcome gather them by
fields, in the order of the fields' first failures: the messages of a field as they came
(`Outcome.get?_grouped`, `Outcome.perm_grouped`), and the parameters with which each rule failed last
(`Outcome.get?_failedRules`).
-/

namespace PayloadCheck.Check

open PayloadCheck.Rule

/-! ### Messages that are written -/

namespace Messages

/-- A message is written for the failure of a rule: for the field and the rule, or for the rule
alone. -/
def IsWritten (m : Messages) (field : String) (rule : Spec) : Prop :=
  m.texts.has (field ++ "." ++ rule.readable) = true ∨ m.texts.has rule.readable = true

variable {m : Messages} {field : String} {rule : Spec}

theorem template_cases (m : Messages) (field : String) (rule : Spec) :
    (m.IsWritten field rule ∧ ∃ text, m.template field rule = .ok text) ∨
    (¬ m.IsWritten field rule ∧
      m.template field rule = .error (.noMessage field rule.readable)) := by
  unfold IsWritten template FieldMap.has
  cases m.texts.get? (field ++ "." ++ rule.readable) with
  | some text => exact Or.inl ⟨Or.inl rfl, text, rfl⟩
  | none =>
    cases m.texts.get? rule.readable with
    | some text => exact Or.inl ⟨Or.inr rfl, text, rfl⟩
    | none => exact Or.inr ⟨by simp, rfl⟩

theorem resolve_cases (m : Messages) (field : String) (rule : Spec) :
    (m.IsWritten field rule ∧ ∃ text, m.resolve field rule = .ok text) ∨
    (¬ m.IsWritten field rule ∧
      m.resolve field rule = .error (.noMessage field rule.readable)) := by
  rw [m.resolve_eq]
  rcases m.template_cases field rule with ⟨hwritten, text, htext⟩ | ⟨hnone, hfault⟩
  · exact Or.inl ⟨hwritten, _, congrArg _ htext⟩
  · exact Or.inr ⟨hnone, congrArg _ hfault⟩

end Messages

/-! ### Additions to a record -/

/-- What an addition comes to: the failure that is added or a fault, and the record after it. -/
def Addition.result (a : Addition) (r : Record) : Except Fault Failure × Record :=
  a.perform.run.run r

/-- An addition step by step is an addition at once, and a fault leaves the record as it was. -/
theorem Addition.result_eq (a : Addition) (r : Record) :
    a.result r = match r.add a.messages a.field a.rule with
      | .ok added => (.ok a.failure, added)
      | .error fault => (.error fault, r) := by
  unfold result perform Record.add
  cases a.messages.resolve a.field a.rule with
  | ok text => rfl
  | error fault => rfl

namespace Record

variable {r : Record} {a : Addition}

/-- The record after several additions, of which some may have ended with a fault. -/
def afterAll (r : Record) (additions : List Addition) : Record :=
  additions.foldl (fun r a => (a.result r).2) r

/-- The two lists of a record belong together: the messages are of the fields of the failures. -/
def Aligned (r : Record) : Prop := r.messages.map Prod.fst = r.failures.map Failure.field

/-- An addition is refused for want of a message, or puts one entry into each list. -/
theorem result_cases (a : Addition) (r : Record) :
    (¬ a.messages.IsWritten a.field a.rule ∧
      a.result r = (.error (.noMessage a.field a.rule.readable), r)) ∨
    (a.messages.IsWritten a.field a.rule ∧ ∃ text, a.messages.resolve a.field a.rule = .ok text ∧
      a.result r =
        (.ok a.failure, ⟨r.failures ++ [a.failure], r.messages ++ [(a.field, text)]⟩)) := by
  rw [a.result_eq, add]
  rcases a.messages.resolve_cases a.field a.rule with ⟨hwritten, text, htext⟩ | ⟨hnone, hfault⟩
  · exact Or.inr ⟨hwritten, text, htext, by rw [htext]; rfl⟩
  · exact Or.inl ⟨hnone, by rw [hfault]; rfl⟩

theorem aligned_result (h : r.Aligned) (a : Addition) : (a.result r).2.Aligned := by
  rcases result_cases a r with ⟨-, hsame⟩ | ⟨-, text, -, hadded⟩
  · rw [hsame]
    exact h
  · rw [hadded]
    unfold Aligned at h ⊢
    rw [List.map_append, List.map_append, h]
    rfl

theorem aligned_afterAll (h : r.Aligned) (additions : List Addition) :
    (r.afterAll additions).Aligned := by
  induction additions generalizing r with
  | nil => exact h
  | cons a rest ih => exact ih (aligned_result h a)

end Record

/-! ### The views of an outcome -/

namespace Outcome

variable {o : Outcome}

theorem grouped_eq (o : Outcome) : o.grouped =
    FieldMap.combine (fun texts text => texts.getD [] ++ [text]) [] o.messages := rfl

theorem failedRules_eq (o : Outcome) : o.failedRules =
    FieldMap.combine (fun (rules : Option (FieldMap (List String))) entry =>
        FieldMap.insert (rules.getD []) entry.1 entry.2) []
      (o.failures.map fun f => (f.field, f.rule, f.parameters)) := by
  rw [FieldMap.combine, List.foldl_map]
  rfl

theorem keys_grouped (o : Outcome) : o.grouped.keys = (o.messages.map Prod.fst).eraseDups := by
  rw [grouped_eq, FieldMap.keys_combine_eraseDups]
  simp [FieldMap.keys]

theorem keys_failedRules (o : Outcome) :
    o.failedRules.keys = (o.failures.map Failure.field).eraseDups := by
  rw [failedRules_eq, FieldMap.keys_combine_eraseDups]
  simp [FieldMap.keys, Function.comp_def]

/-- The messages about a field, in the order in which they came. -/
def textsAbout (o : Outcome) (field : String) : List String :=
  (o.messages.filter fun message => message.1 = field).map Prod.snd

theorem foldl_texts (texts : List String) (old : Option (List String)) :
    texts.foldl (fun old text => some (old.getD [] ++ [text])) old =
      if texts = [] then old else some (old.getD [] ++ texts) := by
  induction texts generalizing old with
  | nil => rfl
  | cons text rest ih =>
    rw [List.foldl_cons, ih]
    cases rest <;> simp

theorem textsAbout_eq_nil_iff {field : String} :
    o.textsAbout field = [] ↔ field ∉ o.messages.map Prod.fst := by
  rw [textsAbout, List.map_eq_nil_iff, List.filter_eq_nil_iff, List.mem_map]
  constructor
  · rintro h ⟨message, hmem, rfl⟩
    exact h message hmem (decide_eq_true rfl)
  · intro h message hmem hfield
    exact h ⟨message, hmem, of_decide_eq_true hfield⟩

theorem get?_grouped (o : Outcome) (field : String) : o.grouped.get? field =
    if field ∈ o.messages.map Prod.fst then some (o.textsAbout field) else none := by
  rw [grouped_eq, FieldMap.get?_combine_foldl, foldl_texts, FieldMap.get?_nil]
  change (if o.textsAbout field = [] then none else some ([] ++ o.textsAbout field)) = _
  simp only [textsAbout_eq_nil_iff, List.nil_append, ite_not]

/-- Gathered messages one by one, each with its field. -/
def spread (texts : FieldMap (List String)) : List (String × String) :=
  texts.flatMap fun entry => entry.2.map fun text => (entry.1, text)

theorem perm_spread_alter (m : FieldMap (List String)) (field text : String) :
    (spread (m.alter field fun texts => texts.getD [] ++ [text])).Perm
      ((field, text) :: spread m) := by
  induction m with
  | nil => exact .refl _
  | cons entry rest ih =>
    obtain ⟨key, texts⟩ := entry
    by_cases hkey : key = field
    · subst hkey
      simp only [spread, FieldMap.alter, if_true, List.flatMap_cons, Option.getD_some,
        List.map_append, List.append_assoc]
      exact List.perm_middle
    · simp only [spread, FieldMap.alter, hkey, if_false, List.flatMap_cons]
      exact (ih.append_left _).trans List.perm_middle

theorem perm_spread_combine (m : FieldMap (List String)) (messages : List (String × String)) :
    (spread (FieldMap.combine (fun texts text => texts.getD [] ++ [text]) m messages)).Perm
      (spread m ++ messages) := by
  -- generalized over what is gathered already; each message goes somewhere into its middle
  induction messages generalizing m with
  | nil => simp [FieldMap.combine]
  | cons message rest ih =>
    obtain ⟨field, text⟩ := message
    have hstep := (perm_spread_alter m field text).append_right rest
    exact (ih _).trans (hstep.trans List.perm_middle.symm)

theorem perm_grouped (o : Outcome) : (spread o.grouped).Perm o.messages :=
  perm_spread_combine [] o.messages

/-- The rules of a field that failed, with their parameters, in the order in which they failed. -/
def rulesAbout (o : Outcome) (field : String) : List (String × List String) :=
  (o.failures.filter fun f => f.field = field).map fun f => (f.rule, f.parameters)

theorem foldl_insert (entries : List (String × List String)) (old : Option (FieldMap (List String))) :
    entries.foldl (fun old entry => some (FieldMap.insert (old.getD []) entry.1 entry.2)) old =
      if entries = [] then old else some (FieldMap.merge (old.getD []) entries) := by
  induction entries generalizing old with
  | nil => rfl
  | cons entry rest ih =>
    rw [List.foldl_cons, ih]
    cases rest <;> simp [FieldMap.merge]

theorem get?_failedRules (o : Outcome) (field : String) : o.failedRules.get? field =
    if o.rulesAbout field = [] then none else some (FieldMap.ofList (o.rulesAbout field)) := by
  have hentries : ((o.failures.map fun f => (f.field, f.rule, f.parameters)).filter fun entry =>
      entry.1 = field).map Prod.snd = o.rulesAbout field := by
    rw [List.filter_map, List.map_map]
    rfl
  rw [failedRules_eq, FieldMap.get?_combine_foldl, hentries, foldl_insert, FieldMap.get?_nil]
  rfl

/-- Each rule that failed for a field is shown with the parameters of its last failure. -/
theorem get?_get?_failedRules (o : Outcome) (field rule : String) :
    ((o.failedRules.get? field).bind fun rules => rules.get? rule) =
      ((o.failures.filter fun f => f.field = field ∧ f.rule = rule).getLast?).map
        Failure.parameters := by
  have hlast : ((o.failedRules.get? field).bind fun rules => rules.get? rule) =
      (FieldMap.ofList (o.rulesAbout field)).get? rule := by
    rw [get?_failedRules]
    split
    · next hnone =>
      rw [hnone]
      rfl
    · rfl
  have hfilter : ((o.rulesAbout field).filter fun entry => entry.1 = rule).map Prod.snd =
      (o.failures.filter fun f => f.field = field ∧ f.rule = rule).map Failure.parameters := by
    rw [rulesAbout, List.filter_map, List.map_map, List.filter_filter]
    simp [Function.comp_def, Bool.and_comm]
  rw [hlast, FieldMap.get?_ofList, hfilter, List.getLast?_map]

end Outcome

/-- **Additions and views.** Whatever was added to a record before, an addition ends with a fault iff
    no message is written for it, namely that there is none, and then leaves both lists as they
    were; else it puts one entry at the end of each. So the lists stay aligned. Of an outcome over
    them both views have the fields as keys, in the order of their first failures: the one shows for
    each field all of its messages in the order in which they came, the other for each field and
    rule the parameters of its last failure. -/
theorem additions_and_views (additions : List Addition) (passed : Bool) :
    let r := Record.afterAll {} additions
    let o : Outcome := ⟨passed, r.failures, r.messages⟩
    (∀ a : Addition,
      (∀ fault, (a.result r).1 = .error fault ↔
        ¬ a.messages.IsWritten a.field a.rule ∧ fault = .noMessage a.field a.rule.readable) ∧
      (¬ a.messages.IsWritten a.field a.rule → (a.result r).2 = r) ∧
      (a.messages.IsWritten a.field a.rule → ∃ text,
        a.messages.resolve a.field a.rule = .ok text ∧ a.result r =
          (.ok a.failure, ⟨r.failures ++ [a.failure], r.messages ++ [(a.field, text)]⟩))) ∧
    r.failures.length = r.messages.length ∧
    r.messages.map Prod.fst = r.failures.map Failure.field ∧
    o.grouped.keys = (o.failures.map Failure.field).eraseDups ∧
    o.failedRules.keys = (o.failures.map Failure.field).eraseDups ∧
    (∀ field, o.grouped.get? field =
      if field ∈ o.failures.map Failure.field then some (o.textsAbout field) else none) ∧
    (Outcome.spread o.grouped).Perm o.messages ∧
    ∀ field rule, ((o.failedRules.get? field).bind fun rules => rules.get? rule) =
      ((o.failures.filter fun f => f.field = field ∧ f.rule = rule).getLast?).map
        Failure.parameters := by
  intro r o
  have hempty : Record.Aligned {} := rfl
  have haligned : o.messages.map Prod.fst = o.failures.map Failure.field :=
    Record.aligned_afterAll hempty additions
  refine ⟨?_, ?_, haligned, haligned ▸ o.keys_grouped, o.keys_failedRules,
    haligned ▸ o.get?_grouped, o.perm_grouped, o.get?_get?_failedRules⟩
  · intro a
    rcases Record.result_cases a r with ⟨hnone, hresult⟩ | ⟨hwritten, text, htext, hresult⟩
    · simp [hresult, hnone, eq_comm]
    · simp [hresult, hwritten, htext]
  · simpa using (congrArg List.length haligned).symm

end PayloadCheck.Check
