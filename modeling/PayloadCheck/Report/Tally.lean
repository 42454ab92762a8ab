/-!
# Tallies

A tally counts occurrences and keeps the order in which they first came. Main statement: noting an
occurrence raises its count by one and leaves all others.
-/

namespace PayloadCheck.Report

/-- What was counted, each with how often it came. -/
structure Tally (α : Type) where
  entries : List (α × Nat) := []
deriving DecidableEq, Repr, Inhabited

namespace Tally

variable {α : Type} [DecidableEq α]

/-- Entries with one more occurrence. -/
def addTo (a : α) : List (α × Nat) → List (α × Nat)
  | [] => [(a, 1)]
  | (b, n) :: rest => if b = a then (b, n + 1) :: rest else (b, n) :: addTo a rest

/-- Notes an occurrence. -/
def add (t : Tally α) (a : α) : Tally α := ⟨addTo a t.entries⟩

/-- Notes what came, if anything did. -/
def addAny (t : Tally α) : Option α → Tally α
  | some a => t.add a
  | none => t

/-- How often something came. -/
def count (t : Tally α) (a : α) : Nat := (t.entries.lookup a).getD 0

/-- How often anything came. -/
def total (t : Tally α) : Nat := t.entries.foldr (fun entry n => entry.2 + n) 0

theorem count_add_self (t : Tally α) (a : α) : (t.add a).count a = t.count a + 1 := by
  obtain ⟨entries⟩ := t
  unfold add count
  induction entries with
  | nil => simp [addTo]
  | cons entry rest ih =>
    obtain ⟨b, n⟩ := entry
    by_cases h : b = a
    · simp [addTo, h]
    · have h' : (a == b) = false := by simpa using Ne.symm h
      simp only [addTo, h, if_false, List.lookup_cons, h']
      exact ih

theorem count_add_of_ne (t : Tally α) {a b : α} (h : b ≠ a) : (t.add a).count b = t.count b := by
  obtain ⟨entries⟩ := t
  unfold add count
  induction entries with
  | nil =>
    have h' : (b == a) = false := by simpa using h
    simp [addTo, List.lookup_cons, h']
  | cons entry rest ih =>
    obtain ⟨c, n⟩ := entry
    by_cases hc : c = a
    · have h' : (b == a) = false := by simpa using h
      simp [addTo, hc, List.lookup_cons, h']
    · simp only [addTo, hc, if_false, List.lookup_cons]
      split
      · rfl
      · exact ih

theorem count_add (t : Tally α) (a b : α) :
    (t.add a).count b = t.count b + if a = b then 1 else 0 := by
  by_cases h : a = b
  · subst h
    rw [count_add_self, if_pos rfl]
  · rw [count_add_of_ne t (Ne.symm h), if_neg h, Nat.add_zero]

theorem total_add (t : Tally α) (a : α) : (t.add a).total = t.total + 1 := by
  obtain ⟨entries⟩ := t
  unfold add total
  induction entries with
  | nil => simp [addTo]
  | cons entry rest ih =>
    obtain ⟨b, n⟩ := entry
    by_cases h : b = a
    · simp only [addTo, h, if_true, List.foldr_cons]
      omega
    · simp only [addTo, h, if_false, List.foldr_cons] at ih ⊢
      rw [ih, Nat.add_assoc]

end Tally

end PayloadCheck.Report
