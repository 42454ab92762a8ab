import Mathlib.Logic.Basic
import PayloadCheck.Proofs.Check.Parting
import PayloadCheck.Proofs.Value.Looseness

/-!
# Comparing two fields

`same` and `different` look for the other field among the data and ask whether its value is loosely
equal to their own. Loose equality has no direction, so it does not matter on which of two fields
that are set such a rule stands; and against a field that is set one of the two rules passes and the
other fails, unless the comparison itself is an error. Against a field that is not set both fail.
-/

namespace PayloadCheck.Check

open PayloadCheck.Number PayloadCheck.Presence PayloadCheck.Rule PayloadCheck.Value

/-- The rules that compare a value with that of another field. -/
inductive Comparison where
  | same
  | different

namespace Comparison

def name : Comparison → String
  | same => "same"
  | different => "different"

/-- Whether the values are to be equal. -/
def wanted : Comparison → Bool
  | same => true
  | different => false

theorem check_mem (k : Comparison) :
    Check.deciding k.name 1 (fun c _ v ps => do comparesTo c v (← parameter ps 0) k.wanted) ∈
      comparisonChecks := by
  cases k <;> simp [comparisonChecks, name, wanted]

end Comparison

/-! ### The other field -/

section

variable {c : Context} {v w : Value} {other : String}

theorem comparesTo_of_set (h : c.bags.dataValue other = .ok w) (hset : isSet w = true) (wanted : Bool) :
    comparesTo c v other wanted = (· == wanted) <$> looseEquals v w := by
  rw [comparesTo, Context.dataValue, h]
  simp only [bind, Except.bind, hset, if_true]
  cases looseEquals v w <;> rfl

theorem comparesTo_of_unset (h : c.bags.dataValue other = .ok w) (hunset : isSet w = false)
    (wanted : Bool) : comparesTo c v other wanted = .ok false := by
  rw [comparesTo, Context.dataValue, h]
  simp only [bind, Except.bind, hunset, Bool.false_eq_true, if_false]
  rfl

end

/-! ### The rules -/

theorem Engine.dispatch_comparison {resolves : List Char → Bool} {e : Engine}
    (hcatalogue : e.catalogue = builtinFor resolves) {k : Comparison} {spelled : String}
    (hspelled : Rule.key spelled = Rule.key k.name) (verifier : Option Verifier) (field : String)
    (v : Value) (other : String) (j : Journal) :
    e.dispatch verifier field v ⟨spelled, [other]⟩ j =
      (comparesTo (e.context verifier.isSome) v other k.wanted, j) := by
  have hkey : Spec.key ⟨spelled, [other]⟩ = Rule.key k.name := hspelled
  rw [dispatch_builtin hcatalogue (comparisonChecks_subset resolves k.check_mem) hkey
    (Nat.le_refl 1)]
  rfl

theorem Engine.dispatch_confirmed {resolves : List Char → Bool} {e : Engine}
    (hcatalogue : e.catalogue = builtinFor resolves) {spelled : String}
    (hspelled : Rule.key spelled = Rule.key "confirmed") (verifier : Option Verifier)
    (field : String) (v : Value) (ps : List String) (j : Journal) :
    e.dispatch verifier field v ⟨spelled, ps⟩ j =
      (comparesTo (e.context verifier.isSome) v (field ++ "_confirmation") true, j) := by
  have hmem : Check.deciding "confirmed" 0 (fun c field v _ =>
      comparesTo c v (field ++ "_confirmation") true) ∈ comparisonChecks := by
    simp [comparisonChecks]
  have hkey : Spec.key ⟨spelled, ps⟩ = Rule.key "confirmed" := hspelled
  rw [dispatch_builtin hcatalogue (comparisonChecks_subset resolves hmem) hkey (Nat.zero_le _)]

/-- **Comparisons.** Loose equality of two values has no direction, errors included, and whole
    numbers or texts for them are loosely equal iff they are the same number. So `same` and
    `different` may stand on either of two fields that are set. Against a field that is set they
    contradict each other, or both end in the fault of the comparison, of which there is none
    between values that have a text and are no signalling decimals. Against a field that is
    missing, null or no more than a file neither passes. `confirmed` is `same` against the field's
    confirmation. -/
theorem comparisons_agree {resolves : List Char → Bool} {e : Engine}
    (hcatalogue : e.catalogue = builtinFor resolves) {spelled : Comparison → String}
    (hspelled : ∀ k, Rule.key (spelled k) = Rule.key k.name) {confirmed : String}
    (hconfirmed : Rule.key confirmed = Rule.key "confirmed") (verifier : Option Verifier)
    (j : Journal) :
    let verdict := fun k field v other =>
      (e.dispatch verifier field v ⟨spelled k, [other]⟩ j).1
    (∀ v w : Value, v.WellFormed → w.WellFormed → looseEquals v w = looseEquals w v) ∧
    (∀ v w i k, v.Denotes i → w.Denotes k → looseEquals v w = .ok (i == k)) ∧
    (∀ a b v w, e.bags.dataValue a = .ok v → e.bags.dataValue b = .ok w →
      isSet v = true → isSet w = true → v.WellFormed → w.WellFormed →
        ∀ k, verdict k a v b = verdict k b w a) ∧
    (∀ a v b w, e.bags.dataValue b = .ok w → isSet w = true →
      (∀ equal, looseEquals v w = .ok equal →
        verdict .same a v b = .ok equal ∧ verdict .different a v b = .ok (!equal)) ∧
      (∀ fault, looseEquals v w = .error fault → ∀ k, verdict k a v b = .error fault) ∧
      ((∃ s, v.comparable = .ok s) → (∃ s, w.comparable = .ok s) →
        ¬ v.IsSignalling → ¬ w.IsSignalling →
          Xor (verdict .same a v b = .ok true) (verdict .different a v b = .ok true))) ∧
    (∀ a v b w, e.bags.dataValue b = .ok w → isSet w = false → ∀ k, verdict k a v b = .ok false) ∧
    (∀ payload : FieldMap Value, payload.keys.Nodup → e.bags = .ofPayload payload →
      ∀ b u, (b, .upload u) ∈ payload → '.' ∉ b.toList → ∀ a v k, verdict k a v b = .ok false) ∧
    ∀ a v ps, (e.dispatch verifier a v ⟨confirmed, ps⟩ j).1 =
      verdict .same a v (a ++ "_confirmation") := by
  intro verdict
  have hverdict : ∀ k a v b,
      verdict k a v b = comparesTo (e.context verifier.isSome) v b k.wanted := fun k a v b =>
    congrArg Prod.fst (Engine.dispatch_comparison hcatalogue (hspelled k) verifier a v b j)
  have hset : ∀ a v b w, e.bags.dataValue b = .ok w → isSet w = true →
      ∀ k, verdict k a v b = (· == k.wanted) <$> looseEquals v w := by
    intro a v b w hb hw k
    rw [hverdict]
    exact comparesTo_of_set hb hw k.wanted
  have hunset : ∀ a v b w, e.bags.dataValue b = .ok w → isSet w = false →
      ∀ k, verdict k a v b = .ok false := by
    intro a v b w hb hw k
    rw [hverdict]
    exact comparesTo_of_unset hb hw k.wanted
  have hequal : ∀ a v b w, e.bags.dataValue b = .ok w → isSet w = true →
      ∀ equal, looseEquals v w = .ok equal →
        verdict .same a v b = .ok equal ∧ verdict .different a v b = .ok (!equal) := by
    intro a v b w hb hw equal h
    rw [hset a v b w hb hw, hset a v b w hb hw, h]
    cases equal <;> exact ⟨rfl, rfl⟩
  refine ⟨fun v w => looseEquals_comm, fun v w i k => looseEquals_of_denotes, ?_, ?_, hunset, ?_, ?_⟩
  · intro a b v w ha hb hv hw hvf hwf k
    rw [hset a v b w hb hw, hset b w a v ha hv, looseEquals_comm hvf hwf]
  · intro a v b w hb hw
    refine ⟨hequal a v b w hb hw, ?_, ?_⟩
    · intro fault h k
      rw [hset a v b w hb hw, h]
      rfl
    · intro hv hw' hvquiet hwquiet
      obtain ⟨equal, h⟩ := exists_looseEquals hv hw' hvquiet hwquiet
      obtain ⟨hsame, hdifferent⟩ := hequal a v b w hb hw equal h
      rw [hsame, hdifferent]
      cases equal <;> simp [Xor]
  · intro payload hkeys hbags b u hmem hb a v k
    have hdata : e.bags.dataValue b = .ok .absent :=
      hbags ▸ (Bags.found_of_file hkeys hmem rfl hb).2
    exact hunset a v b .absent hdata rfl k
  · intro a v ps
    rw [hverdict, Engine.dispatch_confirmed hcatalogue hconfirmed]
    rfl

/-- A number and a padded text for it are the same from either side, and a file is never compared
with. -/
theorem comparisons_agree_padded :
    let e : Engine := ⟨"adhoc", [], builtin,
      .ofPayload [("age", .int 7), ("years", .text " +007\n"),
        ("photo", .upload ⟨"p.png", 3, true, none, none⟩)], ⟨[], []⟩, default⟩
    let verdict := fun (k : Comparison) field v other =>
      (e.dispatch none field v ⟨k.name, [other]⟩ ⟨[], []⟩).1
    verdict .same "age" (.int 7) "years" = .ok true ∧
      verdict .same "years" (.text " +007\n") "age" = .ok true ∧
      verdict .different "age" (.int 7) "years" = .ok false ∧
      verdict .different "age" (.int 7) "photo" = .ok false ∧
      (e.dispatch none "age" (.int 7) ⟨"confirmed", []⟩ ⟨[], []⟩).1 = .ok false := by
  -- kept closed, for its keys are computed by the tables of all letters
  generalize hcatalogue : builtin = catalogue
  intro e verdict
  obtain ⟨-, hwhole, hagree, hset, hunset, hfile, hconfirmed⟩ :=
    comparisons_agree (e := e) hcatalogue.symm
      (fun k => rfl : ∀ k : Comparison, Rule.key k.name = Rule.key k.name)
      (rfl : Rule.key "confirmed" = Rule.key "confirmed") none ⟨[], []⟩
  have hage : e.bags.dataValue "age" = .ok (.int 7) := by rfl
  have hyears : e.bags.dataValue "years" = .ok (.text " +007\n") := by rfl
  have hnone : e.bags.dataValue "age_confirmation" = .ok .absent := by rfl
  let seven : Numeral := {
    before := [' '], sign := .plus, digits := ['0', '0', '7'], after := ['\n']
    before_blank := List.all_eq_true.mp rfl, digits_ne_nil := by decide
    digits_decimal := List.all_eq_true.mp rfl, after_blank := List.all_eq_true.mp rfl }
  have hequal : looseEquals (.int 7) (.text " +007\n") = .ok true :=
    hwhole _ _ 7 7 (.int 7) (.text seven (by decide))
  have hint : (Value.int 7).WellFormed := .intro nofun trivial
  have htext : (Value.text " +007\n").WellFormed := .intro nofun trivial
  obtain ⟨hsame, hdifferent⟩ := (hset "age" (.int 7) "years" _ hyears rfl).1 true hequal
  refine ⟨hsame, ?_, hdifferent, ?_, ?_⟩
  · exact (hagree "age" "years" _ _ hage hyears rfl rfl hint htext .same).symm.trans hsame
  · exact hfile _ (by decide) rfl "photo" ⟨"p.png", 3, true, none, none⟩ (by simp) (by decide)
      "age" (.int 7) .different
  · rw [hconfirmed]
    exact hunset "age" (.int 7) _ _ hnone rfl .same

end PayloadCheck.Check
