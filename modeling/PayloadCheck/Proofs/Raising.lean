import PayloadCheck.Fault

/-!
# What steps may raise

Every fault of a step has a property if those of its parts have it. Steps that only look at values
and files raise faults that reach the library from outside, or faults of the configuration; none
of them raises a fault of the store.
-/

namespace PayloadCheck

variable {ε α β : Type} {P Q : ε → Prop} {step : Except ε α}

/-- Every fault with which a step may end has a property. -/
def Raises (P : ε → Prop) (step : Except ε α) : Prop := ∀ fault, step = .error fault → P fault

namespace Raises

theorem ok (a : α) : Raises P (.ok a) := by
  intro fault h
  cases h

theorem error {fault : ε} (h : P fault) : Raises P (.error fault : Except ε α) := by
  intro other hother
  cases hother
  exact h

theorem mono (h : Raises P step) (hPQ : ∀ fault, P fault → Q fault) : Raises Q step :=
  fun fault hfault => hPQ fault (h fault hfault)

theorem bind {next : α → Except ε β} (h : Raises P step) (hnext : ∀ a, Raises P (next a)) :
    Raises P (step >>= next) := by
  cases step with
  | error fault => exact error (h fault rfl)
  | ok a => exact hnext a

theorem map {f : α → β} (h : Raises P step) : Raises P (f <$> step) := by
  cases step with
  | error fault => exact error (h fault rfl)
  | ok a => exact ok (f a)

theorem mapM {f : α → Except ε β} (h : ∀ a, Raises P (f a)) (as : List α) :
    Raises P (as.mapM f) := by
  induction as with
  | nil => exact ok []
  | cons a rest ih =>
    rw [List.mapM_cons]
    exact (h a).bind fun b => ih.bind fun bs => ok (b :: bs)

theorem ite {c : Prop} [Decidable c] {other : Except ε α} (h : Raises P step)
    (hother : Raises P other) : Raises P (if c then step else other) := by
  split
  · exact h
  · exact hother

/-- Two steps that end with no more than one fault can change places. -/
theorem comm {γ : Type} {fault : ε} {other : Except ε β} (h : Raises (· = fault) step)
    (hother : Raises (· = fault) other) (f : α → β → γ) :
    (do let a ← step; let b ← other; return f a b) =
      (do let b ← other; let a ← step; return f a b) := by
  cases step with
  | ok a => cases other <;> rfl
  | error first =>
    cases other with
    | ok b => rfl
    | error second =>
      rw [h first rfl, hother second rfl]
      rfl

end Raises

/-- A fault of the content of a value that has the right kind. -/
def IsBadValue (fault : Fault) : Prop := ∃ detail, fault = .badValue detail

/-- A fault that is not one of this library's own. -/
def FromOutside (fault : Fault) : Prop := fault.isOwn = false

/-- A fault that no store raised. -/
def NotOfStore (fault : Fault) : Prop := fault.isVerifier = false

theorem FromOutside.notOfStore {fault : Fault} (h : FromOutside fault) : NotOfStore fault := by
  unfold FromOutside Fault.isOwn at h
  unfold NotOfStore
  cases hverifier : fault.isVerifier with
  | false => rfl
  | true => simp [hverifier] at h

theorem Raises.notOfStore {step : Except Fault α} (h : Raises FromOutside step) :
    Raises NotOfStore step :=
  h.mono fun _ => FromOutside.notOfStore

end PayloadCheck
