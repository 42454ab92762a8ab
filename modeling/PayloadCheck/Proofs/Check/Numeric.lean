import PayloadCheck.Proofs.Check.Pass
import PayloadCheck.Proofs.Value.Looseness

/-!
# Numeric values

What the rule `numeric` accepts can be read as a number, and numeric texts are just the parameters
that rules on numbers take. What `integer` accepts is numeric too, and a text of it that is not
too long is read as the whole number that its digits stand for (`numeric_is_read`).
-/

namespace PayloadCheck.Check

open PayloadCheck.Number PayloadCheck.Presence PayloadCheck.Rule PayloadCheck.Value

/-! ### The rules -/

theorem numeric_mem :
    Check.deciding "numeric" 0 (fun _ _ v _ => .ok v.isNumeric) ∈ numericChecks := by
  simp [numericChecks]

theorem integer_mem : Check.deciding "integer" 0 (fun _ _ v _ => isInteger v) ∈ numericChecks := by
  simp [numericChecks]

namespace Engine

variable {resolves : List Char → Bool} {e : Engine} {rule : Spec}

theorem dispatch_numeric (hcatalogue : e.catalogue = builtinFor resolves)
    (hkey : rule.key = Rule.key "numeric") (verifier : Option Verifier) (field : String) (v : Value)
    (j : Journal) : e.dispatch verifier field v rule j = (.ok v.isNumeric, j) := by
  rw [dispatch_builtin hcatalogue (numericChecks_subset resolves numeric_mem) hkey (Nat.zero_le _)]

theorem dispatch_integer (hcatalogue : e.catalogue = builtinFor resolves)
    (hkey : rule.key = Rule.key "integer") (verifier : Option Verifier) (field : String) (v : Value)
    (j : Journal) : e.dispatch verifier field v rule j = (isInteger v, j) := by
  rw [dispatch_builtin hcatalogue (numericChecks_subset resolves integer_mem) hkey (Nat.zero_le _)]

end Engine

/-! ### Parameters -/

theorem exists_numericParameter {p : String} (h : isNumericText p = true) :
    ∃ bound, numberOfText p = .ok bound ∧ ∀ rule, numericParameter p rule = .ok bound := by
  obtain ⟨bound, hbound⟩ := exists_numberOfText h
  refine ⟨bound, hbound, fun rule => ?_⟩
  rw [numericParameter, if_pos h, hbound]

theorem numericParameter_of_denotes {p : String} {i : Int} (h : (Value.text p).Denotes i)
    (rule : String) : numericParameter p rule = .ok (.whole i) := by
  have hnumeric : isNumericText p = true := h.isNumeric
  rw [numericParameter, if_pos hnumeric]
  exact h.toNumber

theorem numericParameter_of_not_numeric {p : String} (h : isNumericText p ≠ true) (rule : String) :
    numericParameter p rule =
      .error (.malformedRule rule s!"Parameter '{p}' must be numeric") := by
  rw [numericParameter, if_neg h]

/-! ### Reading -/

theorem isNumeric_of_isInteger {v : Value} (h : isInteger v = .ok true) :
    v.isNumeric = true ∧ ¬ v.IsSignalling := by
  cases v with
  | int | double => exact ⟨rfl, fun ⟨_, _, hv⟩ => nomatch hv⟩
  | text s =>
    obtain ⟨w, rfl, -⟩ := isIntegerText_iff.mp (Except.ok.inj h)
    exact ⟨w.isNumericText_text, fun ⟨_, _, hv⟩ => nomatch hv⟩
  | decimal d =>
    refine ⟨rfl, ?_⟩
    rintro ⟨negative, payload, hv⟩
    cases hv
    cases h
  | _ => cases h

/-- **Numeric values.** `numeric` accepts the texts that are written as decimal numbers, `integer`
    those that are written as whole numbers without superfluous zeros. A text that `numeric` accepts
    is read as a number, however long it is, and serves as a parameter; any other text is refused as
    the parameter of a malformed rule. What `integer` accepts, `numeric` accepts, and it is read as
    a number: a text that is not too long as the whole number that its digits stand for. -/
theorem numeric_is_read {resolves : List Char → Bool} {e : Engine}
    (hcatalogue : e.catalogue = builtinFor resolves) {numeric integer : Spec}
    (hnumeric : numeric.key = Rule.key "numeric") (hinteger : integer.key = Rule.key "integer")
    (verifier : Option Verifier) (field : String) (j : Journal) :
    let accepts := fun rule v => (e.dispatch verifier field v rule j).1 = .ok true
    (∀ s, accepts numeric (.text s) ↔ ∃ n : DecimalNumeral, n.text = s) ∧
    (∀ s, accepts integer (.text s) ↔ ∃ w : Numeral, w.text = s ∧ w.IsReduced) ∧
    (∀ s, accepts numeric (.text s) → ∃ n, (Value.text s).toNumber = .ok n) ∧
    (∀ s rule, (∃ n, numericParameter s rule = .ok n) ↔ accepts numeric (.text s)) ∧
    (∀ s rule, ¬ accepts numeric (.text s) → numericParameter s rule =
      .error (.malformedRule rule s!"Parameter '{s}' must be numeric")) ∧
    (∀ s, accepts integer (.text s) → accepts numeric (.text s) ∧
      ∀ w : Numeral, w.text = s → w.digits.length ≤ maxDigits →
        (Value.text s).toNumber = .ok (.whole w.value)) ∧
    ∀ v, accepts integer v → accepts numeric v ∧ ∃ n, v.toNumber = .ok n := by
  intro accepts
  have hnumericIff : ∀ v, accepts numeric v ↔ v.isNumeric = true := by
    intro v
    simp only [accepts, Engine.dispatch_numeric hcatalogue hnumeric, Except.ok.injEq]
  have hintegerIff : ∀ v, accepts integer v ↔ isInteger v = .ok true := by
    intro v
    simp only [accepts, Engine.dispatch_integer hcatalogue hinteger]
  have hread : ∀ v, accepts integer v → accepts numeric v ∧ ∃ n, v.toNumber = .ok n := by
    intro v hv
    obtain ⟨hvnumeric, hquiet⟩ := isNumeric_of_isInteger ((hintegerIff v).mp hv)
    exact ⟨(hnumericIff v).mpr hvnumeric, exists_toNumber hvnumeric hquiet⟩
  have hrefused : ∀ s rule, ¬ accepts numeric (.text s) → numericParameter s rule =
      .error (.malformedRule rule s!"Parameter '{s}' must be numeric") := by
    intro s rule hs
    exact numericParameter_of_not_numeric (fun h => hs ((hnumericIff _).mpr h)) rule
  refine ⟨?_, ?_, ?_, ?_, hrefused, ?_, hread⟩
  · intro s
    rw [hnumericIff, ← isNumericText_iff]
    exact Iff.rfl
  · intro s
    rw [hintegerIff, ← isIntegerText_iff]
    exact ⟨Except.ok.inj, congrArg Except.ok⟩
  · intro s hs
    exact exists_toNumber ((hnumericIff _).mp hs) fun ⟨_, _, h⟩ => nomatch h
  · intro s rule
    constructor
    · rintro ⟨n, hn⟩
      by_contra hs
      cases hn.symm.trans (hrefused s rule hs)
    · intro hs
      obtain ⟨n, -, hn⟩ := exists_numericParameter ((hnumericIff _).mp hs)
      exact ⟨n, hn rule⟩
  · intro s hs
    refine ⟨(hread _ hs).1, ?_⟩
    rintro w rfl hshort
    exact (Denotes.text w hshort).toNumber

/-- A padded text is read as the number it denotes, and one with a letter in it is no parameter. -/
theorem numeric_is_read_padded :
    let e : Engine := ⟨"adhoc", [], builtin, .ofPayload [], ⟨[], []⟩, default⟩
    let accepts := fun name v => (e.dispatch none "n" v ⟨name, []⟩ ⟨[], []⟩).1 = .ok true
    accepts "integer" (.text " -42\n") ∧ accepts "numeric" (.text " -42\n") ∧
      (Value.text " -42\n").toNumber = .ok (.whole (-42)) ∧ ¬ accepts "numeric" (.text "4x2") ∧
      numericParameter "4x2" "min" =
        .error (.malformedRule "min" "Parameter '4x2' must be numeric") := by
  -- kept closed, for its keys are computed by the tables of all letters
  generalize hcatalogue : builtin = catalogue
  intro e accepts
  have hnumeric : Spec.key ⟨"numeric", []⟩ = Rule.key "numeric" := rfl
  have hinteger : Spec.key ⟨"integer", []⟩ = Rule.key "integer" := rfl
  obtain ⟨-, hwritten, -, hparameter, hrefused, hwhole, -⟩ :=
    numeric_is_read (e := e) hcatalogue.symm hnumeric hinteger none "n" ⟨[], []⟩
  let number : Numeral := {
    before := [' '], sign := .minus, digits := ['4', '2'], after := ['\n']
    before_blank := List.all_eq_true.mp rfl, digits_ne_nil := by decide
    digits_decimal := List.all_eq_true.mp rfl, after_blank := List.all_eq_true.mp rfl }
  have haccepted : accepts "integer" (.text " -42\n") :=
    (hwritten _).mpr ⟨number, rfl, .inr (by decide)⟩
  have hletter : ¬ accepts "numeric" (.text "4x2") := by
    intro h
    obtain ⟨n, hn⟩ := (hparameter "4x2" "min").mpr h
    cases hn
  obtain ⟨hnumber, hread⟩ := hwhole _ haccepted
  exact ⟨haccepted, hnumber, hread number rfl (by decide), hletter, hrefused _ "min" hletter⟩

end PayloadCheck.Check
