import PayloadCheck.Proofs.Check.Numeric

/-!
# Bounds on sizes

Four rules measure a value alike and hold its size against bounds. For a value that can be measured
`between` is `min` and `max` together and `size` is both with one bound (`bounds_conjoin`), whatever
kinds of numbers the size and the bounds are. Whole numbers, also those beyond the precision of
doubles, are compared exactly (`bounds_of_whole`).
-/

namespace PayloadCheck.Check

open PayloadCheck.Number PayloadCheck.Presence PayloadCheck.Rule PayloadCheck.Text

/-- The rules that hold a size against one bound. -/
inductive Bound where
  | size
  | min
  | max

namespace Bound

def name : Bound → String
  | size => "size"
  | min => "min"
  | max => "max"

/-- How a size is to lie to the bound. -/
def holds : Bound → (size bound : Number) → Bool
  | .size => fun s b => s.same b
  | .min => fun s b => b.le s
  | .max => fun s b => s.le b

/-- What the rule does before it measures: `max` tells files that were not completely uploaded. -/
def refuses (c : Context) (v : Value) : Bound → Except Fault Bool
  | .max => isBrokenFile c v
  | _ => .ok false

def judge (b : Bound) (c : Context) (field : String) (v : Value) (ps : List String) :
    Except Fault Bool := do
  if ← b.refuses c v then return false
  let size ← c.size field v
  return b.holds size (← numericParameter (← parameter ps 0) b.name)

theorem check_mem (b : Bound) : Check.deciding b.name 1 b.judge ∈ numericChecks := by
  cases b with
  | size => exact List.mem_of_getElem? (rfl : numericChecks[5]? = _)
  | min => exact List.mem_of_getElem? (rfl : numericChecks[7]? = _)
  | max => exact List.mem_of_getElem? (rfl : numericChecks[8]? = _)

theorem refuses_eq_false {c : Context} {v : Value} (h : isBrokenFile c v = .ok false) (b : Bound) :
    b.refuses c v = .ok false := by
  cases b with
  | size | min => rfl
  | max => exact h

end Bound

theorem between_mem : Check.deciding "between" 2 (fun c field v ps => do
    let size ← c.size field v
    let lower ← numericParameter (← parameter ps 0) "between"
    let upper ← numericParameter (← parameter ps 1) "between"
    return lower.le size && size.le upper) ∈ numericChecks := by
  simp [numericChecks]

/-! ### Files -/

section

variable {c : Context} {v : Value}

theorem isBrokenFile_of_not_file (h : c.bags.isFile v = false) : isBrokenFile c v = .ok false := by
  unfold isBrokenFile
  rw [h]
  rfl

theorem isBrokenFile_of_valid (hclassifier : c.bags.isFile = isUpload)
    (hvalid : ∀ u, v = .upload u → u.valid = true) : isBrokenFile c v = .ok false := by
  cases v with
  | upload u =>
    rw [isBrokenFile, hclassifier]
    simp [isUpload, hvalid u rfl]
  | _ => exact isBrokenFile_of_not_file (hclassifier ▸ rfl)

end

/-! ### The rules -/

namespace Engine

variable {resolves : List Char → Bool} {e : Engine} {verifier : Option Verifier} {field : String}
  {v : Value} {spelled : String}

theorem dispatch_bound (hcatalogue : e.catalogue = builtinFor resolves) {b : Bound}
    (hspelled : Rule.key spelled = Rule.key b.name)
    (hbroken : b.refuses (e.context verifier.isSome) v = .ok false) {p : String} {bound : Number}
    (hp : numericParameter p b.name = .ok bound) (j : Journal) :
    e.dispatch verifier field v ⟨spelled, [p]⟩ j =
      ((b.holds · bound) <$> (e.context verifier.isSome).size field v, j) := by
  have hkey : Spec.key ⟨spelled, [p]⟩ = Rule.key b.name := hspelled
  have hparameter : parameter [p] 0 = .ok p := rfl
  rw [dispatch_builtin hcatalogue (numericChecks_subset resolves b.check_mem) hkey (Nat.le_refl 1),
    Bound.judge, hbroken]
  simp only [bind, Except.bind, hparameter, hp]
  cases (e.context verifier.isSome).size field v <;> rfl

theorem dispatch_between (hcatalogue : e.catalogue = builtinFor resolves)
    (hspelled : Rule.key spelled = Rule.key "between") {p q : String} {lower upper : Number}
    (hp : numericParameter p "between" = .ok lower)
    (hq : numericParameter q "between" = .ok upper) (j : Journal) :
    e.dispatch verifier field v ⟨spelled, [p, q]⟩ j =
      ((fun size => lower.le size && size.le upper) <$>
        (e.context verifier.isSome).size field v, j) := by
  have hkey : Spec.key ⟨spelled, [p, q]⟩ = Rule.key "between" := hspelled
  have hfirst : parameter [p, q] 0 = .ok p := rfl
  have hsecond : parameter [p, q] 1 = .ok q := rfl
  rw [dispatch_builtin hcatalogue (numericChecks_subset resolves between_mem) hkey (Nat.le_refl 2)]
  simp only [bind, Except.bind, hfirst, hsecond, hp, hq]
  cases (e.context verifier.isSome).size field v <;> rfl

end Engine

/-- **Bounds together.** Of a value that is no file that broke off on the way, `between` is the
    conjunction of `min` and `max`, and `size` that of `min` and `max` with one bound. All four end
    in the fault of measuring the value where that is a fault, and otherwise compare its size with
    the numbers that the bounds are. -/
theorem bounds_conjoin {resolves : List Char → Bool} {e : Engine}
    (hcatalogue : e.catalogue = builtinFor resolves) (hclassifier : e.bags.isFile = isUpload)
    {spelled : Bound → String} (hspelled : ∀ b, Rule.key (spelled b) = Rule.key b.name)
    {between : String} (hbetween : Rule.key between = Rule.key "between") {v : Value}
    (hvalid : ∀ u, v = .upload u → u.valid = true) {p q : String}
    (hp : Value.isNumericText p = true) (hq : Value.isNumericText q = true)
    (verifier : Option Verifier) (field : String) (j : Journal) :
    let verdict := fun name ps => (e.dispatch verifier field v ⟨name, ps⟩ j).1
    let measured := (e.context verifier.isSome).size field v
    verdict between [p, q] =
      (do return (← verdict (spelled .min) [p]) && (← verdict (spelled .max) [q])) ∧
    verdict (spelled .size) [p] =
      (do return (← verdict (spelled .min) [p]) && (← verdict (spelled .max) [p])) ∧
    (∀ fault, measured = .error fault →
      verdict between [p, q] = .error fault ∧
        ∀ b r, Value.isNumericText r = true → verdict (spelled b) [r] = .error fault) ∧
    ∀ size, measured = .ok size → ∃ lower upper,
      Value.numberOfText p = .ok lower ∧ Value.numberOfText q = .ok upper ∧
        verdict between [p, q] = .ok (lower.le size && size.le upper) ∧
        verdict (spelled .size) [p] = .ok (size.same lower) ∧
        verdict (spelled .min) [p] = .ok (lower.le size) ∧
        verdict (spelled .max) [q] = .ok (size.le upper) := by
  intro verdict measured
  obtain ⟨lower, hlower⟩ := exists_numericParameter hp
  obtain ⟨upper, hupper⟩ := exists_numericParameter hq
  have hwhole : isBrokenFile (e.context verifier.isSome) v = .ok false :=
    isBrokenFile_of_valid hclassifier hvalid
  have hverdict : ∀ b r bound, (∀ rule, numericParameter r rule = .ok bound) →
      verdict (spelled b) [r] = (b.holds · bound) <$> measured := by
    intro b r bound hr
    exact congrArg Prod.fst
      (Engine.dispatch_bound hcatalogue (hspelled b) (b.refuses_eq_false hwhole) (hr b.name) j)
  have hboth : verdict between [p, q] =
      (fun size => lower.le size && size.le upper) <$> measured :=
    congrArg Prod.fst (Engine.dispatch_between hcatalogue hbetween (hlower.2 _) (hupper.2 _) j)
  refine ⟨?_, ?_, ?_, ?_⟩
  · rw [hboth, hverdict .min p lower hlower.2, hverdict .max q upper hupper.2]
    cases measured <;> rfl
  · rw [hverdict .size p lower hlower.2, hverdict .min p lower hlower.2,
      hverdict .max p lower hlower.2]
    cases measured with
    | error fault => rfl
    | ok size => exact congrArg Except.ok (same_eq_le_and_le size lower)
  · intro fault hfault
    refine ⟨by rw [hboth, hfault]; rfl, fun b r hr => ?_⟩
    obtain ⟨bound, -, hbound⟩ := exists_numericParameter hr
    rw [hverdict b r bound hbound, hfault]
    rfl
  · intro size hsize
    refine ⟨lower, upper, hlower.1, hupper.1, ?_, ?_, ?_, ?_⟩
    · rw [hboth, hsize]
      rfl
    · rw [hverdict .size p lower hlower.2, hsize]
      rfl
    · rw [hverdict .min p lower hlower.2, hsize]
      rfl
    · rw [hverdict .max q upper hupper.2, hsize]
      rfl

/-- Three items lie between two and seven, and are not two. -/
theorem bounds_conjoin_items :
    let e : Engine := ⟨"adhoc", [], builtin, .ofPayload [], ⟨[], []⟩, default⟩
    let verdict := fun name ps =>
      (e.dispatch none "tags" (.list [.null, .null, .null]) ⟨name, ps⟩ ⟨[], []⟩).1
    verdict "between" ["2", " +7"] = .ok true ∧ verdict "min" ["2"] = .ok true ∧
      verdict "max" [" +7"] = .ok true ∧ verdict "size" ["2"] = .ok false ∧
      verdict "size" ["2"] = (do return (← verdict "min" ["2"]) && (← verdict "max" ["2"])) := by
  -- kept closed, for its keys are computed by the tables of all letters
  generalize hcatalogue : builtin = catalogue
  intro e verdict
  have hmeasured : (e.context false).size "tags" (.list [.null, .null, .null]) = .ok (.whole 3) := by
    rfl
  have htwo : Value.numberOfText "2" = .ok (.whole 2) := by rfl
  have hseven : Value.numberOfText " +7" = .ok (.whole 7) := by rfl
  obtain ⟨-, hsize, -, hcompared⟩ :=
    bounds_conjoin (e := e) hcatalogue.symm rfl
      (fun b => rfl : ∀ b : Bound, Rule.key b.name = Rule.key b.name)
      (rfl : Rule.key "between" = Rule.key "between") (v := .list [.null, .null, .null]) nofun
      (by decide : Value.isNumericText "2" = true) (by decide : Value.isNumericText " +7" = true)
      none "tags" ⟨[], []⟩
  obtain ⟨lower, upper, hlower, hupper, hbetween, hequal, hmin, hmax⟩ := hcompared _ hmeasured
  cases htwo.symm.trans hlower
  cases hseven.symm.trans hupper
  exact ⟨hbetween, hmin, hmax, hequal, hsize⟩

/-! ### Whole numbers -/

/-- The names that make numeric values of a field count as numbers. -/
def numericNames : List String := ["numeric", "integer", "max", "min", "size"]

/-- Numeric values count as numbers iff a rule of the field has one of the names in any spelling. -/
theorem hasNumericRule_iff {rules : List Spec} : hasNumericRule rules = true ↔
    ∃ r ∈ rules, ∃ name ∈ numericNames, r.key = Rule.key name := by
  have hchars : ∀ name ∈ numericKeys,
      lowerAfter [] (identifierChars name.toList) = name.toList := by decide
  have hkeys : ∀ name ∈ numericKeys, Rule.key name = name := fun name hname =>
    key_of_chars (hchars name hname)
  rw [hasNumericRule, List.any_eq_true]
  refine exists_congr fun r => and_congr_right fun _ => ?_
  rw [List.contains_iff_mem]
  constructor
  · intro hr
    exact ⟨r.key, hr, (hkeys _ hr).symm⟩
  · rintro ⟨name, hname, hkey⟩
    rw [hkey, hkeys name hname]
    exact hname

theorem Bound.name_mem (b : Bound) : b.name ∈ numericNames := by
  cases b <;> simp [name, numericNames]

theorem size_of_denotes {c : Context} {field : String} {v : Value} {n : Int} (hv : v.Denotes n)
    (hnumeric : hasNumericRule (c.rulesFor field) = true) : c.size field v = .ok (.whole n) := by
  rw [Context.size, sizeOf, hv.isNumeric, hnumeric]
  exact hv.toNumber

/-- Without a rule that makes it count as a number, a whole number is measured by its text. -/
theorem size_of_text {c : Context} {field : String} {v : Value} {n : Int} (hv : v.Denotes n)
    (hplain : c.bags.isFile v = false) (hnone : hasNumericRule (c.rulesFor field) = false) :
    c.size field v = (fun s : String => Number.whole s.length) <$> v.comparable := by
  have hitems : itemCount? v = none := by
    cases hv <;> rfl
  rw [Context.size, sizeOf, hnone, Bool.and_false, hitems, hplain]
  rfl

/-- **Whole numbers.** A whole number of any size, or a text for one, satisfies a bound that is
    written as such a text iff the numbers themselves lie so, with nothing rounded, once the rule
    that bounds it is among the rules of the field. `between` does so where a rule of the field
    makes it count as a number, and otherwise holds the length of its text against the bounds.
    For `max`, and for texts that are measured, the value must not be taken for a file. -/
theorem bounds_of_whole {resolves : List Char → Bool} {e : Engine}
    (hcatalogue : e.catalogue = builtinFor resolves)
    {spelled : Bound → String} (hspelled : ∀ b, Rule.key (spelled b) = Rule.key b.name)
    {between : String} (hbetween : Rule.key between = Rule.key "between") {v : Value} {n : Int}
    (hv : v.Denotes n) {p q : String} {b c : Int} (hp : (Value.text p).Denotes b)
    (hq : (Value.text q).Denotes c) (verifier : Option Verifier) (field : String) (j : Journal) :
    let verdict := fun name ps => (e.dispatch verifier field v ⟨name, ps⟩ j).1
    let carried := (e.context verifier.isSome).rulesFor field
    let numeric := ∃ r ∈ carried, ∃ name ∈ numericNames, r.key = Rule.key name
    (e.bags.isFile v = false → ⟨spelled .max, [p]⟩ ∈ carried →
      verdict (spelled .max) [p] = .ok (decide (n ≤ b))) ∧
    (⟨spelled .min, [p]⟩ ∈ carried → verdict (spelled .min) [p] = .ok (decide (b ≤ n))) ∧
    (⟨spelled .size, [p]⟩ ∈ carried → verdict (spelled .size) [p] = .ok (decide (n = b))) ∧
    (numeric → verdict between [p, q] = .ok (decide (b ≤ n ∧ n ≤ c))) ∧
    (¬ numeric → e.bags.isFile v = false →
      verdict between [p, q] =
        (fun s : String => decide (b ≤ s.length ∧ (s.length : Int) ≤ c)) <$> v.comparable) := by
  intro verdict carried numeric
  have hboth : verdict between [p, q] =
      (fun size => (whole b).le size && size.le (whole c)) <$>
        (e.context verifier.isSome).size field v :=
    congrArg Prod.fst (Engine.dispatch_between hcatalogue hbetween
      (numericParameter_of_denotes hp _) (numericParameter_of_denotes hq _) j)
  have hbound : ∀ k : Bound, k.refuses (e.context verifier.isSome) v = .ok false →
      ⟨spelled k, [p]⟩ ∈ carried → verdict (spelled k) [p] = .ok (k.holds (whole n) (whole b)) := by
    intro k hrefuses hmem
    have hnumeric : hasNumericRule carried = true :=
      hasNumericRule_iff.mpr ⟨_, hmem, k.name, k.name_mem, hspelled k⟩
    have hverdict : verdict (spelled k) [p] =
        (k.holds · (whole b)) <$> (e.context verifier.isSome).size field v :=
      congrArg Prod.fst (Engine.dispatch_bound hcatalogue (hspelled k) hrefuses
        (numericParameter_of_denotes hp _) j)
    rw [hverdict, size_of_denotes hv hnumeric]
    rfl
  refine ⟨fun hplain hmem => ?_, fun hmem => ?_, fun hmem => ?_, fun hnumeric => ?_,
    fun hnone hplain => ?_⟩
  · rw [hbound .max (isBrokenFile_of_not_file hplain) hmem, ← le_whole]
    rfl
  · rw [hbound .min rfl hmem, ← le_whole]
    rfl
  · rw [hbound .size rfl hmem, ← same_whole]
    rfl
  · rw [hboth, size_of_denotes hv (hasNumericRule_iff.mpr hnumeric), Bool.decide_and, ← le_whole,
      ← le_whole]
    rfl
  · have hlengthwise : hasNumericRule carried = false :=
      Bool.eq_false_iff.mpr fun h => hnone (hasNumericRule_iff.mp h)
    rw [hboth, size_of_text hv hplain hlengthwise]
    simp only [Bool.decide_and, ← le_whole]
    cases v.comparable <;> rfl

/-- Two numbers that are one double are told apart. -/
theorem bounds_of_whole_beyond_doubles :
    let e : Engine := ⟨"adhoc",
      [("n", [⟨"max", ["9007199254740992"]⟩, ⟨"min", ["9007199254740992"]⟩])], builtin,
      .ofPayload [("n", .int 9007199254740993)], ⟨[], []⟩, default⟩
    let verdict := fun name ps => (e.dispatch none "n" (.int 9007199254740993) ⟨name, ps⟩ ⟨[], []⟩).1
    verdict "max" ["9007199254740992"] = .ok false ∧ verdict "min" ["9007199254740992"] = .ok true ∧
      verdict "between" ["9007199254740992", " +09007199254740993"] = .ok true := by
  -- kept closed, for its keys are computed by the tables of all letters
  generalize hcatalogue : builtin = catalogue
  intro e verdict
  let lower : Numeral := {
    before := [], sign := .none, digits := "9007199254740992".toList, after := []
    before_blank := List.all_eq_true.mp rfl, digits_ne_nil := by decide
    digits_decimal := List.all_eq_true.mp rfl, after_blank := List.all_eq_true.mp rfl }
  let upper : Numeral := {
    before := [' '], sign := .plus, digits := "09007199254740993".toList, after := []
    before_blank := List.all_eq_true.mp rfl, digits_ne_nil := by decide
    digits_decimal := List.all_eq_true.mp rfl, after_blank := List.all_eq_true.mp rfl }
  have hlower : (Value.text "9007199254740992").Denotes 9007199254740992 :=
    .text lower (by decide)
  have hupper : (Value.text " +09007199254740993").Denotes 9007199254740993 :=
    .text upper (by decide)
  obtain ⟨hmax, hmin, -, hbetween, -⟩ :=
    bounds_of_whole (e := e) hcatalogue.symm
      (fun b => rfl : ∀ b : Bound, Rule.key b.name = Rule.key b.name)
      (rfl : Rule.key "between" = Rule.key "between") (.int 9007199254740993) hlower hupper none "n"
      ⟨[], []⟩
  have hcarried : (e.context false).rulesFor "n" =
      [⟨"max", ["9007199254740992"]⟩, ⟨"min", ["9007199254740992"]⟩] := by rfl
  have hmaxmem : ⟨"max", ["9007199254740992"]⟩ ∈ (e.context false).rulesFor "n" := by
    rw [hcarried]
    exact List.mem_cons_self ..
  have hminmem : ⟨"min", ["9007199254740992"]⟩ ∈ (e.context false).rulesFor "n" := by
    rw [hcarried]
    exact List.mem_cons_of_mem _ (List.mem_cons_self ..)
  exact ⟨hmax rfl hmaxmem, hmin hminmem, hbetween ⟨_, hmaxmem, "max", by decide, rfl⟩⟩

end PayloadCheck.Check
