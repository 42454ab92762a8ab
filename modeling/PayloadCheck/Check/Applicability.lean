import PayloadCheck.Check.Basic

/-!
# Applicability

A rule is run for a field if the value is present or the rule reacts to missing values, and if
the field was submitted or is not marked by the rule `sometimes`.
-/

namespace PayloadCheck.Check

open PayloadCheck.Rule PayloadCheck.Report

/-- Keys of the rules that react to missing values. -/
def implicitKeys : List String :=
  ["required", "requiredwith", "requiredwithall", "requiredwithout", "requiredwithoutall",
   "requiredif", "accepted"]

/-- Whether a rule reacts to missing values. -/
def isImplicit (rule : Spec) : Bool := implicitKeys.contains rule.key

/-- Whether the rules of a field are run only if the field was submitted. -/
def isSometimes (rules : List Spec) : Bool := rules.any fun r => r.key == "sometimes"

/-- Decides whether a rule is run: nothing if it is, or the reason why it is not. -/
def skip? (rule : Spec) (field : String) (v : Value) (rules : List Spec) (submitted : Bool) :
    Option Skip :=
  if !submitted && isSometimes rules then some .notSubmitted
  else if v.isPresent field || isImplicit rule then none
  else some .valueMissing

end PayloadCheck.Check
