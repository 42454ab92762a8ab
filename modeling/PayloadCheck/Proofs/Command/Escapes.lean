import PayloadCheck.Proofs.Check.Construction
import PayloadCheck.Proofs.Command.Endings
import PayloadCheck.Proofs.Json.Reading
import PayloadCheck.Proofs.Yaml.Reading

/-!
# What escapes a check

A check without a store that finds its files answers with an exit code of at most 2, unless a fault
escapes it. There are four ways out: the file of settings holds a name or a text that no environment
takes; a text among the rules is marked as a value that it is not; a field of the payload is marked
as an upload and what stands for the path is no text, or a text too long for a path; and a rule
whose check goes astray is the first one of the pass to have a fault at all. Main statement:
`check_escapes_iff`.
-/

namespace PayloadCheck

open PayloadCheck.Check

theorem isHandled_of_refusal {c : Context} (hfiles : ¬ c.MistakesFiles) {fault : Fault}
    (h : c.Refusal fault) : IsHandled fault := by
  cases h with
  | value detail => exact Or.inr rfl
  | rule rule detail => exact Or.inl rfl
  | file mistakes => exact absurd mistakes hfiles
  | store => exact Or.inl rfl

/-! ### Passes -/

namespace Check

theorem not_isHandled_of_strays {c : Context} {v : Value} {ps : List String} {fault : Fault}
    {name : String} (h : Strays c v ps fault name) : ¬ IsHandled fault := by
  rcases fault_of_strays h with ⟨detail, rfl⟩ | ⟨detail, rfl⟩ <;>
    simp [IsHandled, Fault.isConfiguration, Command.isBadInput]

namespace Engine

/-- A rule of a field is run, and its check goes astray. -/
def StraysAt (e : Engine) (p : Pair) (fault : Fault) : Prop :=
  ∃ v check, e.bags.value p.1 = .ok v ∧ applies p v = true ∧
    e.catalogue.find? p.2.1.name = some check ∧ check.arity ≤ p.2.1.parameters.length ∧
    Strays (e.context false) v p.2.1.parameters fault check.name

variable {e : Engine} {resolves : List Char → Bool} {asked : List Presence.Query} {p : Pair}
  {fault : Fault}

/-- Without a store it does not matter what was asked before. -/
theorem fault?_none_eq (e : Engine) (asked : List Presence.Query) (p : Pair) :
    e.fault? none asked p = e.fault? none [] p := rfl

theorem firstFault?_none_eq (e : Engine) (asked : List Presence.Query) (ps : List Pair) :
    e.firstFault? none asked ps = ps.findSome? (e.fault? none []) := by
  induction ps generalizing asked with
  | nil => rfl
  | cons p rest ih =>
    rw [firstFault?_cons, ih, fault?_none_eq, List.findSome?_cons]
    cases e.fault? none [] p <;> rfl

section

variable (hcatalogue : e.catalogue = builtinFor resolves) (hfile : e.bags.isFile = isUpload)

include hfile in
theorem not_mistakesFiles (hasVerifier : Bool) : ¬ (e.context hasVerifier).MistakesFiles := by
  rintro ⟨v, hcounts, hupload⟩
  have hcounts : e.bags.isFile v = true := hcounts
  rw [hfile, hupload] at hcounts
  cases hcounts

include hcatalogue hfile in
theorem answer_none_cases {field : String} {v : Value} {rule : Rule.Spec}
    (h : e.answer none asked field v rule = .error fault) : IsHandled fault ∨
      ∃ check, e.catalogue.find? rule.name = some check ∧ check.arity ≤ rule.parameters.length ∧
        Strays (e.context false) v rule.parameters fault check.name := by
  cases hfind : e.catalogue.find? rule.name with
  | none =>
    simp only [answer, Catalogue.lookUp, hfind] at h
    obtain rfl := Except.error.inj h
    exact Or.inl (Or.inl rfl)
  | some check =>
    simp only [answer, Catalogue.lookUp_of_find? hfind] at h
    split at h
    · obtain rfl := Except.error.inj h
      exact Or.inl (Or.inl rfl)
    · next hlength =>
      have harity : check.arity ≤ rule.parameters.length := Nat.le_of_not_lt hlength
      have hmem : check ∈ builtinChecks resolves := mem_builtinChecks_of_find? hcatalogue hfind
      split at h
      · cases h
      · next hrun =>
        obtain rfl := Except.error.inj h
        exact (refused_cases hmem harity hrun).imp
          (isHandled_of_refusal (not_mistakesFiles hfile false)) fun hstrays =>
            ⟨check, rfl, harity, hstrays⟩
      · obtain rfl := Except.error.inj (Fault.map_eq_error_iff.mp h)
        exact Or.inl (Or.inl rfl)

include hcatalogue hfile in
/-- A rule has a fault that is not handled iff its check is run and goes astray. -/
theorem fault?_escapes_iff :
    (e.fault? none asked p = some fault ∧ ¬ IsHandled fault) ↔ e.StraysAt p fault := by
  constructor
  · rintro ⟨h, hescapes⟩
    unfold fault? at h
    split at h
    · next refused hjudged =>
      obtain rfl := Option.some.inj h
      unfold judgement at hjudged
      split at hjudged
      · next hvalue =>
        obtain rfl := Except.error.inj hjudged
        exact absurd (isHandled_of_refusal (not_mistakesFiles hfile false)
          (raises_value (c := e.context false) p.1 _ hvalue)) hescapes
      · next v hvalue =>
        split at hjudged
        · next happlies =>
          rcases answer_none_cases hcatalogue hfile (Fault.map_eq_error_iff.mp hjudged) with
            hhandled | ⟨check, hfind, harity, hstrays⟩
          · exact absurd hhandled hescapes
          · exact ⟨v, check, hvalue, happlies, hfind, harity, hstrays⟩
        · cases hjudged
    · split at h
      · next hresolve =>
        obtain rfl := Option.some.inj h
        obtain rfl := resolve_fault hresolve
        exact absurd (Or.inl rfl) hescapes
      · cases h
    · cases h
  · rintro ⟨v, check, hvalue, happlies, hfind, harity, hstrays⟩
    have hmem : check ∈ builtinChecks resolves := mem_builtinChecks_of_find? hcatalogue hfind
    refine ⟨fault?_of_refused ?_, not_isHandled_of_strays hstrays⟩
    have hrun : check.run (e.context false) p.1 v p.2.1.parameters = .refused fault :=
      refused_of_strays hmem hstrays
    rw [judgement_of_find? asked hvalue happlies hfind harity]
    simp only [Option.isSome_none, hrun]
    rfl

end

end Engine

end Check

namespace Rule

/-- The pass of a rule set goes astray: its engine is built, and of the rules that have a fault the
first one has a check that goes astray. -/
def PassStrays (s : RuleSet) (payload : FieldMap Value) (now : Time.Moment) (fault : Fault) :
    Prop :=
  ∃ e before p after, (s.setup payload now).build.1 = .ok e ∧
    Engine.pairs e.rules = before ++ p :: after ∧ (∀ q ∈ before, e.fault? none [] q = none) ∧
    e.StraysAt p fault

variable {s : RuleSet} {payload : FieldMap Value} {now : Time.Moment} {fault : Fault}

/-- What keeps the engine of a rule set from being built is handled. -/
theorem isHandled_of_build (h : (s.setup payload now).build.1 = .error fault) :
    IsHandled fault := by
  have hrules : ∀ entry ∈ (s.setup payload now).rules, IsRules entry.2 := by
    intro entry hentry
    obtain ⟨⟨field, entries⟩, -, rfl⟩ := List.mem_map.mp hentry
    cases entries <;> trivial
  have hbuild := build_eq hrules
  split at hbuild
  · next first hfirst =>
    obtain rfl := Except.error.inj (h.symm.trans hbuild)
    rcases Option.or_eq_some_iff.mp hfirst with hunread | ⟨-, hunknown⟩
    · rcases firstUnread?_cases hunread with ⟨rule, detail, rfl⟩ | ⟨rfl, -⟩
      · exact Or.inl rfl
      · exact Value.isBadValue_tooManyDigits.isHandled
    · obtain ⟨⟨field, rule⟩, -, hrule⟩ := List.exists_of_findSome?_eq_some hunknown
      dsimp only at hrule
      split at hrule
      · cases hrule
      · obtain rfl := Option.some.inj hrule
        exact Or.inl rfl
  · obtain ⟨e, hbuilt, -⟩ := hbuild
    rw [hbuilt] at h
    cases h

theorem apply_eq_error_iff : (s.apply payload none now).1 = .error fault ↔
    (s.setup payload now).build.1 = .error fault ∨ ∃ e, (s.setup payload now).build.1 = .ok e ∧
      (Engine.pairs e.rules).findSome? (e.fault? none []) = some fault := by
  unfold RuleSet.apply
  rcases hbuild : (s.setup payload now).build with ⟨refused | e, events⟩
  · simp
  · have hrun := Engine.run_result e none []
    rw [Engine.firstFault?_none_eq] at hrun
    dsimp only
    rw [hrun]
    cases hfirst : (Engine.pairs e.rules).findSome? (e.fault? none []) <;> simp [hfirst]

/-- A fault that is not handled ends the pass of a rule set iff the pass goes astray with it. -/
theorem apply_escapes_iff : ((s.apply payload none now).1 = .error fault ∧ ¬ IsHandled fault) ↔
    PassStrays s payload now fault := by
  have hengine : ∀ {e : Engine}, (s.setup payload now).build.1 = .ok e → ∀ p,
      (e.fault? none [] p = some fault ∧ ¬ IsHandled fault) ↔ e.StraysAt p fault := by
    intro e hbuilt p
    obtain ⟨rules, -, -, rfl⟩ := Setup.build_eq_ok_iff.mp hbuilt
    exact Engine.fault?_escapes_iff rfl rfl
  rw [apply_eq_error_iff]
  constructor
  · rintro ⟨hbuild | ⟨e, hbuilt, hfirst⟩, hescapes⟩
    · exact absurd (isHandled_of_build hbuild) hescapes
    · obtain ⟨before, p, after, hpairs, hfault, hbefore⟩ := List.findSome?_eq_some_iff.mp hfirst
      exact ⟨e, before, p, after, hbuilt, hpairs, hbefore,
        (hengine hbuilt p).mp ⟨hfault, hescapes⟩⟩
  · rintro ⟨e, before, p, after, hbuilt, hpairs, hbefore, hstrays⟩
    obtain ⟨hfault, hescapes⟩ := (hengine hbuilt p).mpr hstrays
    exact ⟨Or.inr ⟨e, hbuilt, List.findSome?_eq_some_iff.mpr
      ⟨before, p, after, hpairs, hfault, hbefore⟩⟩, hescapes⟩

end Rule

/-! ### Payloads -/

namespace Command

open PayloadCheck.Rule

/-- A field is marked as an upload, and what stands for the path is no text or a text that is too
long for a path. -/
inductive BadMark (folder : Folder) (v : Value) : Fault → Prop
  | kind {other : Value} (marked : markedPath? v = some other) (noText : ∀ s, other ≠ .text s) :
      BadMark folder v (notAPath other)
  | length {path : String} (marked : markedPath? v = some (.text path))
      (noNull : (Location.ofPath path).text.contains '\x00' = false)
      (tooLong : folder.find (Location.ofPath path).text = .error .nameTooLong) :
      BadMark folder v (Folder.obstacleFault (Location.ofPath path).text .nameTooLong)

/-- A payload is an object, and of its fields that are marked badly the first one gives the
fault. -/
def MarkedBadly (folder : Folder) (text : String) (fault : Fault) : Prop :=
  ∃ before name v after, Json.read text = .ok (.map (before ++ (.text name, v) :: after)) ∧
    (∀ other u, (.text other, u) ∈ before → ∀ earlier, ¬ BadMark folder u earlier) ∧
    BadMark folder v fault

variable {folder : Folder} {v : Value} {fault : Fault}

theorem textAt?_eq_error_iff {path : String} : folder.textAt? path = .error fault ↔
    path.contains '\x00' = false ∧ folder.find path = .error .nameTooLong ∧
      fault = Folder.obstacleFault path .nameTooLong := by
  unfold Folder.textAt?
  cases path.contains '\x00' with
  | true => simp
  | false =>
    rcases folder.find path with obstacle | place
    · cases obstacle <;> simp [eq_comm]
    · cases place <;> simp

theorem readField_eq_error_iff : readField folder v = .error fault ↔ BadMark folder v fault := by
  have hupload : ∀ path, folder.upload path none none = .error fault ↔
      folder.textAt? (Location.ofPath path).text = .error fault := by
    intro path
    simp only [Folder.upload, Fault.bind_eq_error_iff, or_iff_left_iff_imp]
    rintro ⟨text?, -, h⟩
    cases text? <;> cases h
  constructor
  · intro h
    unfold readField at h
    split at h
    · next path hmarked =>
      obtain ⟨hnull, hlong, rfl⟩ :=
        textAt?_eq_error_iff.mp ((hupload path).mp (Fault.map_eq_error_iff.mp h))
      exact .length hmarked hnull hlong
    · next other hnoText hmarked =>
      obtain rfl := Except.error.inj h
      exact .kind hmarked hnoText
    · cases h
  · rintro (⟨hmarked, hnoText⟩ | ⟨hmarked, hnull, hlong⟩)
    · simp only [readField, hmarked]
    · simp only [readField, hmarked]
      exact Fault.map_eq_error_iff.mpr
        ((hupload _).mpr (textAt?_eq_error_iff.mpr ⟨hnull, hlong, rfl⟩))

theorem not_isHandled_of_badMark (h : BadMark folder v fault) : ¬ IsHandled fault := by
  cases h <;>
    simp [IsHandled, notAPath, Folder.obstacleFault, Fault.isConfiguration, isBadInput]

/-- The fault of an entry that cannot be read as a field. -/
def entryFault? (folder : Folder) : Value × Value → Option Fault
  | (.text _, v) =>
    match readField folder v with
    | .error fault => some fault
    | .ok _ => none
  | _ => none

/-- The fields of a payload cannot be read iff an entry cannot, and the first such entry gives the
fault. -/
theorem readFields_eq_error_iff {entries : List (Value × Value)} :
    readFields folder entries = .error fault ↔
      entries.findSome? (entryFault? folder) = some fault := by
  fun_induction readFields folder entries with
  | case1 => simp
  | case2 name v rest ih =>
    rw [List.findSome?_cons, entryFault?]
    cases readField folder v with
    | error earlier =>
      constructor <;>
      · intro h
        cases h
        rfl
    | ok read =>
      change (Prod.mk name read :: ·) <$> readFields folder rest = _ ↔ _
      rw [Fault.map_eq_error_iff, ih]
  | case3 entry rest hkey ih =>
    obtain ⟨key, v⟩ := entry
    have hnone : entryFault? folder (key, v) = none := by
      cases key with
      | text name => exact absurd rfl (hkey name v)
      | _ => rfl
    rw [ih, List.findSome?_cons, hnone]

theorem entryFault?_eq_some_iff {entry : Value × Value} :
    entryFault? folder entry = some fault ↔
      ∃ name v, entry = (.text name, v) ∧ BadMark folder v fault := by
  obtain ⟨key, v⟩ := entry
  cases key with
  | text name =>
    simp only [Prod.mk.injEq, Value.text.injEq, ← readField_eq_error_iff, entryFault?]
    cases hread : readField folder v <;> simp [hread]
  | _ => simp [entryFault?]

theorem entryFault?_eq_none_iff {entry : Value × Value} : entryFault? folder entry = none ↔
    ∀ name v, entry = (.text name, v) → ∀ fault, ¬ BadMark folder v fault := by
  rw [Option.eq_none_iff_forall_ne_some]
  simp only [ne_eq, entryFault?_eq_some_iff]
  constructor
  · intro h name v hentry fault hmark
    exact h fault ⟨name, v, hentry, hmark⟩
  · rintro h fault ⟨name, v, hentry, hmark⟩
    exact h name v hentry fault hmark

/-- The fields of a payload cannot be read iff one of them is marked badly. -/
theorem readFields_eq_error_iff_badMark {entries : List (Value × Value)} :
    readFields folder entries = .error fault ↔ ∃ before name v after,
      entries = before ++ (.text name, v) :: after ∧
      (∀ other u, (.text other, u) ∈ before → ∀ earlier, ¬ BadMark folder u earlier) ∧
      BadMark folder v fault := by
  rw [readFields_eq_error_iff, List.findSome?_eq_some_iff]
  constructor
  · rintro ⟨before, entry, after, rfl, hentry, hbefore⟩
    obtain ⟨name, v, rfl, hmark⟩ := entryFault?_eq_some_iff.mp hentry
    refine ⟨before, name, v, after, rfl, fun other u hmem => ?_, hmark⟩
    exact entryFault?_eq_none_iff.mp (hbefore _ hmem) other u rfl
  · rintro ⟨before, name, v, after, rfl, hbefore, hmark⟩
    refine ⟨before, _, after, rfl, entryFault?_eq_some_iff.mpr ⟨name, v, rfl, hmark⟩, ?_⟩
    intro entry hmem
    refine entryFault?_eq_none_iff.mpr ?_
    rintro other u rfl
    exact hbefore other u hmem

/-- A fault that is not handled keeps a payload from being read iff a field is marked badly. -/
theorem readPayloadText_escapes_iff {text : String} :
    (readPayloadText folder text = .error fault ∧ ¬ IsHandled fault) ↔
      MarkedBadly folder text fault := by
  constructor
  · rintro ⟨h, hescapes⟩
    unfold readPayloadText at h
    split at h
    · next entries hread =>
      obtain ⟨before, name, v, after, rfl, hbefore, hmark⟩ := readFields_eq_error_iff_badMark.mp h
      exact ⟨before, name, v, after, hread, hbefore, hmark⟩
    · obtain rfl := Except.error.inj h
      exact absurd (Or.inl rfl) hescapes
    · obtain rfl := Except.error.inj h
      exact absurd (Or.inl rfl) hescapes
    · next outside hread =>
      obtain rfl := Except.error.inj h
      exact absurd (Json.isBadValue_of_read hread).isHandled hescapes
  · rintro ⟨before, name, v, after, hread, hbefore, hmark⟩
    refine ⟨?_, not_isHandled_of_badMark hmark⟩
    simp only [readPayloadText, hread]
    exact readFields_eq_error_iff_badMark.mpr ⟨before, name, v, after, rfl, hbefore, hmark⟩

/-! ### Rule sets -/

/-- A text among the rules is marked as a value and does not fit its mark. -/
def Misfits (rulesText : String) (fault : Fault) : Prop :=
  ∃ outside, Yaml.read rulesText = .error (.content outside) ∧ outside.fault = fault ∧
    Yaml.Misfit fault

/-- The texts of the files that a check is given. -/
structure Reads (w : Surroundings) (o : CheckOptions) (rulesText payloadText : String) : Prop where
  rules : ∃ path, safePath (.text o.rules) "rules" = .ok path ∧
    w.folder.readText (Location.ofPath path).text = .ok rulesText
  payload : (o.data = "-" ∧ w.input = payloadText) ∨ (o.data ≠ "-" ∧
    ∃ path, safePath (.text o.data) "data" = .ok path ∧ w.folder.readText path = .ok payloadText)

variable {w : Surroundings} {o : CheckOptions} {rulesText payloadText : String}

theorem exists?_of_readText {path text : String} (h : folder.readText path = .ok text) :
    folder.exists? path = .ok true := by
  obtain ⟨found, hopen, -⟩ := Fault.bind_eq_ok_iff.mp h
  unfold Folder.open_ at hopen
  split at hopen
  · cases hopen
  · next hnull =>
    split at hopen
    · next hfind => simp only [Folder.exists?, hnull, hfind, if_false, Bool.false_eq_true]
    · cases hopen
    · cases hopen

theorem Reads.readPayload_eq (h : Reads w o rulesText payloadText) :
    readPayload w.folder w.input o.data = readPayloadText w.folder payloadText := by
  unfold readPayload
  rcases h.payload with ⟨hdash, rfl⟩ | ⟨hpath, path, hsafe, hread⟩
  · rw [if_pos (beq_iff_eq.mpr hdash)]
  · rw [if_neg (by simpa using hpath), hsafe]
    simp only [hread, bind, Except.bind]

theorem map_of_readConfig {path text : String} {config : Value}
    (h : readConfig path text = .ok config) : ∃ entries, config = .map entries := by
  unfold readConfig at h
  split at h
  · next found _ =>
    cases found with
    | map entries =>
      dsimp only at h
      split at h
      · exact ⟨entries, (Except.ok.inj h).symm⟩
      · cases h
    | _ => simp at h
  · cases h
  · cases h

theorem not_isHandled_of_misfit (h : Yaml.Misfit fault) : ¬ IsHandled fault := by
  cases h <;> simp [IsHandled, Fault.isConfiguration, isBadInput]

theorem readConfig_escapes_iff {path text : String} :
    (readConfig path text = .error fault ∧ ¬ IsHandled fault) ↔ Misfits text fault := by
  constructor
  · rintro ⟨h, hescapes⟩
    unfold readConfig at h
    split at h
    · dsimp only at h
      exact absurd (Raises.ite (P := IsHandled) (.ok _) (.error (Or.inl rfl)) fault h) hescapes
    · obtain rfl := Except.error.inj h
      exact absurd (Or.inl rfl) hescapes
    · next outside hread =>
      obtain rfl := Except.error.inj h
      rcases Yaml.misfit_of_read hread with hcontent | hmisfit
      · exact absurd hcontent.isHandled hescapes
      · exact ⟨outside, hread, rfl, hmisfit⟩
  · rintro ⟨outside, hread, rfl, hmisfit⟩
    refine ⟨?_, not_isHandled_of_misfit hmisfit⟩
    simp only [readConfig, hread]

theorem Reads.loadRules_eq {path : String} (hsafe : safePath (.text o.rules) "rules" = .ok path)
    (hread : w.folder.readText (Location.ofPath path).text = .ok rulesText) :
    loadRules w o = readConfig (Location.ofPath path).text rulesText >>= fun config =>
      RuleSet.ofConfig config (Location.ofPath path).stem >>= fun s =>
        .ok (s, .loaded s.name s.rules.length) := by
  simp only [loadRules, RuleSet.load, hsafe, exists?_of_readText hread, hread, bind, Except.bind]
  rfl

/-- A fault that is not handled keeps the rules from being loaded iff a text among them does not fit
its mark. -/
theorem Reads.loadRules_escapes_iff (h : Reads w o rulesText payloadText) :
    (loadRules w o = .error fault ∧ ¬ IsHandled fault) ↔ Misfits rulesText fault := by
  obtain ⟨path, hsafe, hread⟩ := h.rules
  rw [loadRules_eq hsafe hread, Fault.bind_eq_error_iff, ← readConfig_escapes_iff]
  refine and_congr_left fun hescapes => or_iff_left ?_
  rintro ⟨config, hconfig, hrest⟩
  obtain ⟨entries, rfl⟩ := map_of_readConfig hconfig
  rcases Fault.bind_eq_error_iff.mp hrest with hsections | ⟨s, -, hdone⟩
  · exact hescapes (raises_ofSections entries _ fault hsections)
  · cases hdone

/-! ### Checks -/

/-- A fault escapes a check whose settings are in order: from the rules, from the payload, or from
the pass. -/
inductive Escapes (w : Surroundings) (o : CheckOptions) (rulesText payloadText : String) :
    Fault → Prop
  | rules {fault : Fault} (misfits : Misfits rulesText fault) :
      Escapes w o rulesText payloadText fault
  | payload {s : RuleSet} {event : Report.Event} {fault : Fault}
      (rules : loadRules w o = .ok (s, event)) (marked : MarkedBadly w.folder payloadText fault) :
      Escapes w o rulesText payloadText fault
  | pass {s : RuleSet} {payload : FieldMap Value} {fault : Fault} (loaded : Loaded w o s payload)
      (strays : PassStrays s payload w.now fault) : Escapes w o rulesText payloadText fault

theorem attempt_result (w : Surroundings) (env : Environment) (hstore : o.withDatabase = false) :
    (attempt w env o).result = loadRules w o >>= fun (s, _) =>
      readPayload w.folder w.input o.data >>= fun payload =>
        (s.apply payload none w.now).1 >>= fun outcome => .ok (s.name, outcome) := by
  unfold attempt loadBoth
  rcases loadRules w o with fault | ⟨s, event⟩
  · rfl
  · rcases readPayload w.folder w.input o.data with fault | payload
    · rfl
    · simp only [hstore, Bool.false_eq_true, if_false, attemptPlain_result]
      rfl

theorem attempt_escapes_iff (h : Reads w o rulesText payloadText) (hstore : o.withDatabase = false)
    (env : Environment) : ((attempt w env o).result = .error fault ∧ ¬ IsHandled fault) ↔
      Escapes w o rulesText payloadText fault := by
  rw [attempt_result w env hstore]
  constructor
  · rintro ⟨hresult, hescapes⟩
    rcases Fault.bind_eq_error_iff.mp hresult with hrules | ⟨⟨s, event⟩, hrules, hresult⟩
    · exact .rules (h.loadRules_escapes_iff.mp ⟨hrules, hescapes⟩)
    rcases Fault.bind_eq_error_iff.mp hresult with hpayload | ⟨payload, hpayload, hresult⟩
    · rw [h.readPayload_eq] at hpayload
      exact .payload hrules (readPayloadText_escapes_iff.mp ⟨hpayload, hescapes⟩)
    rcases Fault.bind_eq_error_iff.mp hresult with hpass | ⟨outcome, -, hdone⟩
    · exact .pass ⟨⟨event, hrules⟩, hpayload⟩ (apply_escapes_iff.mp ⟨hpass, hescapes⟩)
    · cases hdone
  · rintro (hmisfits | ⟨hrules, hmarked⟩ | ⟨⟨⟨event, hrules⟩, hpayload⟩, hstrays⟩)
    · obtain ⟨hrules, hescapes⟩ := h.loadRules_escapes_iff.mpr hmisfits
      exact ⟨Fault.bind_eq_error_iff.mpr (Or.inl hrules), hescapes⟩
    · obtain ⟨hpayload, hescapes⟩ := readPayloadText_escapes_iff.mpr hmarked
      rw [← h.readPayload_eq] at hpayload
      exact ⟨Fault.bind_eq_error_iff.mpr (Or.inr ⟨_, hrules,
        Fault.bind_eq_error_iff.mpr (Or.inl hpayload)⟩), hescapes⟩
    · obtain ⟨hpass, hescapes⟩ := apply_escapes_iff.mpr hstrays
      exact ⟨Fault.bind_eq_error_iff.mpr (Or.inr ⟨_, hrules, Fault.bind_eq_error_iff.mpr
        (Or.inr ⟨_, hpayload, Fault.bind_eq_error_iff.mpr (Or.inl hpass)⟩)⟩), hescapes⟩

theorem notOfStore_of_escapes (h : Escapes w o rulesText payloadText fault) : NotOfStore fault := by
  have hstray : ∀ {c : Context} {v : Value} {ps : List String} {name : String},
      Strays c v ps fault name → NotOfStore fault := fun hstrays => by
    rcases fault_of_strays hstrays with ⟨detail, rfl⟩ | ⟨detail, rfl⟩ <;> rfl
  cases h with
  | rules misfits =>
    obtain ⟨outside, -, rfl, hmisfit⟩ := misfits
    exact FromOutside.notOfStore outside.outside
  | payload rules marked =>
    obtain ⟨before, name, v, after, -, -, hmark⟩ := marked
    cases hmark <;> rfl
  | pass loaded strays =>
    obtain ⟨e, before, p, after, -, -, -, v, check, -, -, -, -, hstrays⟩ := strays
    exact hstray hstrays

theorem complaint?_of_isHandled (h : IsHandled fault) :
    ∃ text, complaint? fault = some (2, text) := by
  rcases complaint?_cases fault with ⟨hof, -⟩ | ⟨-, -, hcode⟩ | ⟨-, hconfiguration, hinput, -⟩
  · exact absurd (h.notOfStore.symm.trans hof) (by decide)
  · exact hcode
  · simp [IsHandled, hconfiguration, hinput] at h

theorem complaint?_of_not_isHandled (hstore : NotOfStore fault) (h : ¬ IsHandled fault) :
    complaint? fault = none := by
  rcases complaint?_cases fault with ⟨hof, -⟩ | ⟨-, hkind, -⟩ | ⟨-, -, -, hnone⟩
  · exact absurd (hstore.symm.trans hof) (by decide)
  · exact absurd hkind h
  · exact hnone

theorem ending_of_result {env : Environment} {name : String} {outcome : Outcome}
    (hmetrics : ∀ path, o.metricsFile = some path → path = "")
    (hresult : (attempt w env o).result = .ok (name, outcome)) :
    (finish w o (attempt w env o)).ending = .ok (exitCode outcome) := by
  have hwritten : writeMetrics w.folder o.metricsFile (attempt w env o).events = .ok w.folder := by
    unfold writeMetrics
    split
    · next path hfile =>
      rw [hmetrics path hfile]
      rfl
    · rfl
  simp only [finish, hresult, hwritten]

/-- A check whose settings are in order ends with an exit code, or a fault escapes it. -/
theorem ending_cases (h : Reads w o rulesText payloadText) (hstore : o.withDatabase = false)
    (hmetrics : ∀ path, o.metricsFile = some path → path = "") {env : Environment}
    (henv : completeEnvironment w o.envFile = .ok env) :
    ((∃ code ≤ 2, (check w o).ending = .ok code) ∧
      ∀ fault, ¬ Escapes w o rulesText payloadText fault) ∨
    ∃ fault, (check w o).ending = .error fault ∧
      ∀ other, Escapes w o rulesText payloadText other ↔ other = fault := by
  have hcheck : check w o = finish w o (attempt w env o) := by simp only [check, henv]
  have hescapes : ∀ fault, ((attempt w env o).result = .error fault ∧ ¬ IsHandled fault) ↔
      Escapes w o rulesText payloadText fault := fun fault => attempt_escapes_iff h hstore env
  rw [hcheck]
  cases hresult : (attempt w env o).result with
  | ok found =>
    obtain ⟨name, outcome⟩ := found
    refine Or.inl ⟨⟨exitCode outcome, Nat.le_succ_of_le (exitCode_le_one outcome),
      ending_of_result hmetrics hresult⟩, fun fault => ?_⟩
    rw [← hescapes, hresult]
    rintro ⟨hother, -⟩
    cases hother
  | error fault =>
    by_cases hhandled : IsHandled fault
    · left
      obtain ⟨text, hcode⟩ := complaint?_of_isHandled hhandled
      refine ⟨⟨2, le_rfl, by rw [finish_of_complaint hresult hcode]⟩, fun other => ?_⟩
      rw [← hescapes, hresult]
      rintro ⟨hother, hnot⟩
      obtain rfl := Except.error.inj hother
      exact hnot hhandled
    · right
      have hescape : Escapes w o rulesText payloadText fault :=
        (hescapes fault).mp ⟨hresult, hhandled⟩
      have hnone : complaint? fault = none :=
        complaint?_of_not_isHandled (notOfStore_of_escapes hescape) hhandled
      refine ⟨fault, by rw [finish_of_unhandled hresult hnone], fun other => ?_⟩
      rw [← hescapes, hresult]
      constructor
      · rintro ⟨hother, -⟩
        exact (Except.error.inj hother).symm
      · rintro rfl
        exact ⟨rfl, hhandled⟩

end Command

end PayloadCheck
