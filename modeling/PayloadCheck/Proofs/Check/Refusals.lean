import PayloadCheck.Check.Builtin
import PayloadCheck.Proofs.Value.Faults
import PayloadCheck.Proofs.Value.Path

/-!
# What the built-in checks refuse

A built-in check that has its parameters refuses a value for its content, for the parameters, for a
file that is no upload, or for want of a store (`Context.Refusal`). So do all checks on required
values, comparisons, files and stored records, and most checks on numbers and on the forms of texts.
What measures a file may meet one whose kilobytes lie beyond the doubles (`raises_size`).
-/

namespace PayloadCheck.Check

open PayloadCheck.Value PayloadCheck.Network

/-! ### Ordinary refusals -/

/-- A value counts as a file that is no upload. -/
def Context.MistakesFiles (c : Context) : Prop := ∃ v, c.bags.isFile v = true ∧ isUpload v = false

/-- The faults that a value, a parameter, a file or a missing store gives rise to. -/
inductive Context.Refusal (c : Context) : Fault → Prop
  | value (detail : String) : Refusal c (.badValue detail)
  | rule (rule detail : String) : Refusal c (.malformedRule rule detail)
  | file (mistakes : c.MistakesFiles) (v : Value) (property : String) : Refusal c (lacks v property)
  | store : Refusal c .noVerifier

/-- What a check that has its parameters refuses. -/
def Check.RefusesOnly (check : Check) (P : Context → Value → List String → Fault → Prop) : Prop :=
  ∀ c field v ps fault, check.arity ≤ ps.length → check.run c field v ps = .refused fault →
    P c v ps fault

/-- A check that has its parameters never goes astray. -/
def Check.RefusesPlainly (check : Check) : Prop := check.RefusesOnly fun c _ _ => c.Refusal

theorem verdict_refused_iff {step : Except Fault Bool} {fault : Fault} :
    Verdict.of step = .refused fault ↔ step = .error fault := by
  cases step <;> simp [Verdict.of]

theorem refusesOnly_deciding {name : String} {arity : Nat}
    {decide : Context → String → Value → List String → Except Fault Bool}
    {P : Context → Value → List String → Fault → Prop}
    (h : ∀ c field v ps, arity ≤ ps.length → Raises (P c v ps) (decide c field v ps)) :
    (Check.deciding name arity decide).RefusesOnly P :=
  fun c field v ps fault harity hrefused =>
    h c field v ps harity fault (verdict_refused_iff.mp hrefused)

section

variable {c : Context} {α : Type} {step : Except Fault α}

theorem raises_content (h : Raises IsBadValue step) : Raises c.Refusal step := by
  refine h.mono ?_
  rintro fault ⟨detail, rfl⟩
  exact .value detail

theorem raises_written {step : Except Fault α} (h : Raises (· = tooManyDigits) step) :
    Raises c.Refusal step := by
  refine h.mono ?_
  rintro fault rfl
  exact .value _

theorem raises_get (source : Value) (path : String) : Raises c.Refusal (source.get path) :=
  raises_content fun _ => get_fault

theorem raises_dataValue (field : String) : Raises c.Refusal (c.dataValue field) :=
  raises_get (bagValue c.bags.data) field

theorem raises_value (field : String) : Raises c.Refusal (c.value field) := by
  unfold Context.value Bags.value
  refine (raises_dataValue field).bind fun v => ?_
  split
  · exact raises_get (bagValue c.bags.files) field
  · exact .ok _

/-- A parameter that is there is found. -/
theorem raises_parameter {P : Fault → Prop} {ps : List String} {i : Nat} (h : i < ps.length) :
    Raises P (parameter ps i) := by
  unfold parameter
  rw [List.getElem?_eq_getElem h]
  exact .ok _

theorem raises_numericParameter (p rule : String) : Raises c.Refusal (numericParameter p rule) := by
  unfold numericParameter
  split
  · exact raises_content (raises_numberOfText p)
  · exact .error (.rule _ _)

/-- A file is measured, and its kilobytes lie beyond the doubles. -/
def Context.Oversizes (c : Context) (v : Value) : Prop :=
  c.bags.isFile v = true ∧
    ∃ u negative, v = .upload u ∧ Double.ofRatio false u.size 1024 = .infinite negative

theorem raises_kilobytes {v : Value} (hfile : c.bags.isFile v = true) :
    Raises (fun fault => c.Refusal fault ∨ fault = oversized ∧ c.Oversizes v) (kilobytes v) := by
  unfold kilobytes
  split
  · next u =>
    split
    · next negative hratio => exact .error (Or.inr ⟨rfl, hfile, u, negative, rfl, hratio⟩)
    · exact .ok _
  · next hupload =>
    refine .error (Or.inl (.file ⟨v, hfile, ?_⟩ _ _))
    cases v with
    | upload u => exact absurd rfl (hupload u)
    | _ => rfl

theorem raises_size (field : String) (v : Value) :
    Raises (fun fault => c.Refusal fault ∨ fault = oversized ∧ c.Oversizes v)
      (c.size field v) := by
  unfold Context.size sizeOf
  split
  · exact (raises_content (raises_toNumber v)).mono fun _ => Or.inl
  · split
    · exact .ok _
    · split
      · next hfile => exact raises_kilobytes hfile
      · refine Raises.bind ((raises_written (raises_comparable v)).mono fun _ => Or.inl) fun _ => ?_
        exact .ok _

theorem size_of_oversizes (h : c.Oversizes v) (field : String) :
    c.size field v = .error oversized := by
  obtain ⟨hfile, u, negative, rfl, hratio⟩ := h
  simp [Context.size, sizeOf, Value.isNumeric, itemCount?, hfile, kilobytes, hratio]

end

/-! ### Families without surprises -/

section

variable {c : Context}

theorem raises_isFieldPresent (field : String) : Raises c.Refusal (isFieldPresent c field) :=
  (raises_value field).bind fun _ => .ok _

theorem raises_allMissing (fields : List String) : Raises c.Refusal (allMissing c fields) := by
  induction fields with
  | nil => exact .ok _
  | cons field rest ih => exact (raises_isFieldPresent field).bind fun _ => .ite (.ok _) ih

theorem raises_anyMissing (fields : List String) : Raises c.Refusal (anyMissing c fields) := by
  induction fields with
  | nil => exact .ok _
  | cons field rest ih => exact (raises_isFieldPresent field).bind fun _ => .ite ih (.ok _)

theorem raises_equalsAny (v : Value) (texts : List String) :
    Raises c.Refusal (equalsAny v texts) := by
  induction texts with
  | nil => exact .ok _
  | cons p rest ih => exact (raises_content (raises_looseEquals _ v)).bind fun _ => .ite (.ok _) ih

theorem raises_presentIf {condition : Except Fault Bool} (h : Raises c.Refusal condition)
    (field : String) (v : Value) : Raises c.Refusal (presentIf condition field v) :=
  h.bind fun _ => .ite (.ok _) (.ok _)

theorem raises_comparesTo (v : Value) (other : String) (equal : Bool) :
    Raises c.Refusal (comparesTo c v other equal) :=
  (raises_dataValue other).bind fun w =>
    .ite ((raises_content (raises_looseEquals v w)).bind fun _ => .ok _) (.ok _)

end

theorem refusesPlainly_requiredChecks : ∀ check ∈ requiredChecks, check.RefusesPlainly := by
  simp only [requiredChecks, List.forall_mem_cons, List.not_mem_nil, false_imp_iff, implies_true,
    and_true]
  refine ⟨?_, ?_, ?_, ?_, ?_, ?_, ?_, ?_⟩ <;>
    refine refusesOnly_deciding fun c field v ps harity => ?_
  · exact .ok _
  · exact .ok _
  · exact .ok _
  · exact (raises_parameter (by omega)).bind fun _ => (raises_dataValue _).bind fun other =>
      raises_presentIf (raises_equalsAny other _) field v
  · exact raises_presentIf (raises_allMissing ps).map field v
  · exact raises_presentIf (raises_anyMissing ps).map field v
  · exact raises_presentIf (raises_anyMissing ps) field v
  · exact raises_presentIf (raises_allMissing ps) field v

theorem refusesPlainly_comparisonChecks : ∀ check ∈ comparisonChecks, check.RefusesPlainly := by
  simp only [comparisonChecks, List.forall_mem_cons, List.not_mem_nil, false_imp_iff, implies_true,
    and_true]
  refine ⟨?_, ?_, ?_, ?_, ?_⟩ <;> refine refusesOnly_deciding fun c field v ps harity => ?_
  · exact (raises_parameter harity).bind fun _ => raises_comparesTo v _ true
  · exact (raises_parameter harity).bind fun _ => raises_comparesTo v _ false
  · exact raises_comparesTo v _ true
  · exact (raises_written (raises_comparable v)).bind fun _ => .ok _
  · exact (raises_written (raises_comparable v)).bind fun _ => .ok _

theorem raises_isInteger {c : Context} (v : Value) : Raises c.Refusal (isInteger v) := by
  unfold isInteger
  split
  case h_3 =>
    split
    · exact .ok _
    · exact .error (.value _)
  all_goals exact .ok _

/-- Only what is no upload lacks the mark of a complete upload. -/
theorem raises_isBrokenFile {c : Context} (v : Value) : Raises c.Refusal (isBrokenFile c v) := by
  unfold isBrokenFile
  split
  · next hfile =>
    split
    · exact .ok _
    · next hupload =>
      refine .error (.file ⟨v, hfile, ?_⟩ _ _)
      cases v with
      | upload u => exact absurd rfl (hupload u)
      | _ => rfl
  · exact .ok _

theorem raises_checkHost (host : List Char) : Raises IsBadValue (checkHost host) := by
  unfold checkHost
  exact .ite (.ite (.ok _) (.error ⟨_, rfl⟩))
    (.ite (.error ⟨_, rfl⟩) (.ite (.ok _) (.error ⟨_, rfl⟩)))

theorem raises_checkBrackets (authority : List Char) :
    Raises IsBadValue (checkBrackets authority) := by
  unfold checkBrackets
  dsimp only
  split
  · exact .ite (.error ⟨_, rfl⟩) (.ite (.error ⟨_, rfl⟩) (raises_checkHost _))
  · exact raises_checkHost _

theorem raises_checkAuthority (authority : List Char) :
    Raises IsBadValue (checkAuthority authority) := by
  unfold checkAuthority
  dsimp only
  split
  · exact Raises.bind (.error ⟨_, rfl⟩) fun _ => .ite (raises_checkBrackets _) (.ok _)
  · exact .ite (raises_checkBrackets _) (.ok _)

theorem raises_readUrl (text : List Char) : Raises IsBadValue (Url.read text) := by
  unfold Url.read
  dsimp only
  exact (raises_checkAuthority _).bind fun _ =>
    .ite (Raises.bind (P := IsBadValue) (.error ⟨_, rfl⟩) fun _ => .ok _) (.ok _)

theorem raises_hostOf (cs : List Char) : Raises IsBadValue (hostOf cs) :=
  (raises_readUrl _).bind fun _ => .ok _

theorem raises_kind (u : Upload) : Raises IsBadValue u.kind := by
  have hguess : Raises IsBadValue (Upload.kind.guess u) := by
    unfold Upload.kind.guess Media.guessKind
    exact (raises_readUrl _).bind fun _ => .ite (.ok _) (.ok _)
  unfold Upload.kind
  split
  · exact .ite hguess (.ok _)
  · exact hguess

theorem raises_endings (u : Upload) : Raises IsBadValue u.endings := by
  refine (raises_kind u).bind fun kind => ?_
  split <;> exact .ok _

theorem raises_hasEnding {c : Context} (v : Value) (endings : List String) :
    Raises c.Refusal (hasEnding c v endings) := by
  unfold hasEnding
  split
  · next hfile =>
    split
    · exact .ite (raises_content ((raises_endings _).bind fun _ => .ok _)) (.ok _)
    · next hupload =>
      refine .error (.file ⟨v, hfile, ?_⟩ _ _)
      cases v with
      | upload u => exact absurd rfl (hupload u)
      | _ => rfl
  · exact .ok _

theorem refusesPlainly_fileChecks : ∀ check ∈ fileChecks, check.RefusesPlainly := by
  simp only [fileChecks, List.forall_mem_cons, List.not_mem_nil, false_imp_iff, implies_true,
    and_true]
  refine ⟨?_, ?_⟩ <;> exact refusesOnly_deciding fun c field v ps _ => raises_hasEnding v _

/-! ### Stored records -/

section

variable {c : Context}

theorem raises_extraConditions (segments : List String) (rule : String) :
    Raises c.Refusal (extraConditions segments rule) := by
  unfold extraConditions
  exact .ite (.error (.rule _ _)) (.ok _)

theorem raises_comparables (vs : List Value) : Raises c.Refusal (comparables vs) := by
  induction vs with
  | nil => exact .ok _
  | cons v rest ih =>
    exact (raises_written (raises_comparable v)).bind fun _ => ih.bind fun _ => .ok _

theorem raises_uniqueQuery (field : String) (v : Value) {ps : List String} (h : 1 ≤ ps.length) :
    Raises c.Refusal (uniqueQuery field v ps) := by
  rw [uniqueQuery_eq]
  exact (raises_parameter h).bind fun _ => (raises_extraConditions _ _).bind fun _ =>
    (raises_written (raises_comparable v)).bind fun _ => .ok _

theorem raises_existsQuery (field : String) (v : Value) {ps : List String} (h : 1 ≤ ps.length) :
    Raises c.Refusal (existsQuery field v ps) := by
  rw [existsQuery_eq]
  refine (raises_parameter h).bind fun _ => (raises_extraConditions _ _).bind fun _ => ?_
  split
  · exact (raises_comparables _).bind fun _ => .ok _
  · exact (raises_comparables _).bind fun _ => .ok _
  · exact (raises_written (raises_comparable v)).bind fun _ => .ok _

theorem refusal_of_asking {query : Except Fault (Presence.Query × (Int → Bool))} {fault : Fault}
    (hquery : Raises c.Refusal query) (h : asking c query = .refused fault) : c.Refusal fault := by
  unfold asking at h
  split at h
  · split at h
    · cases h
    · cases h
      exact hquery _ rfl
  · cases h
    exact .store

end

theorem refusesPlainly_storedChecks : ∀ check ∈ storedChecks, check.RefusesPlainly := by
  simp only [storedChecks, List.forall_mem_cons, List.not_mem_nil, false_imp_iff, implies_true,
    and_true]
  constructor
  · intro c field v ps fault harity h
    exact refusal_of_asking ((raises_uniqueQuery field v harity).bind fun _ => .ok _) h
  · intro c field v ps fault harity h
    exact refusal_of_asking ((raises_existsQuery field v harity).bind fun _ => .ok _) h

end PayloadCheck.Check
