import PayloadCheck.Proofs.Value.Equality
import PayloadCheck.Proofs.Value.Faults

/-!
# Values without a text

A value can be written down unless a whole number of too many digits stands somewhere in it: as an
item, as a key, or as the size of an upload (`HasLongNumber`). Main statements: `shown_eq_error_iff`
and `plain_eq_error_iff`.
-/

namespace PayloadCheck.Value

open PayloadCheck.Number

/-- Somewhere in a value stands a whole number of too many digits. -/
inductive HasLongNumber : Value → Prop
  | number {i : Int} (long : tenPow maxDigits ≤ i.natAbs) : HasLongNumber (int i)
  | size {u : Upload} (long : tenPow maxDigits ≤ u.size) : HasLongNumber (upload u)
  | part {v w : Value} (mem : w ∈ v.parts) (long : HasLongNumber w) : HasLongNumber v

/-- A step that ends with a fault. -/
def Fails {α : Type} (step : Except Fault α) : Prop := ∃ fault, step = .error fault

variable {α β : Type}

theorem fails_bind_iff {step : Except Fault α} {next : α → Except Fault β} :
    Fails (step >>= next) ↔ Fails step ∨ ∃ a, step = .ok a ∧ Fails (next a) := by
  cases step <;> simp [Fails, bind, Except.bind]

theorem not_fails_ok (a : α) : ¬ Fails (.ok a : Except Fault α) := by
  rintro ⟨fault, h⟩
  cases h

theorem fails_return_iff {step : Except Fault α} (f : α → β) :
    Fails (step >>= fun a => pure (f a)) ↔ Fails step := by
  rw [fails_bind_iff, or_iff_left_iff_imp]
  rintro ⟨a, -, h⟩
  exact absurd h (not_fails_ok (f a))

/-- Two steps, one after the other, whatever the first one gives. -/
theorem fails_bind_iff_or {step : Except Fault α} {next : α → Except Fault β} {P : Prop}
    (hnext : ∀ a, Fails (next a) ↔ P) : Fails (step >>= next) ↔ Fails step ∨ P := by
  rw [fails_bind_iff]
  constructor
  · rintro (h | ⟨a, -, h⟩)
    · exact Or.inl h
    · exact Or.inr ((hnext a).mp h)
  · intro h
    cases step with
    | error fault => exact Or.inl ⟨fault, rfl⟩
    | ok a =>
      rcases h with h | h
      · exact absurd h (not_fails_ok a)
      · exact Or.inr ⟨a, rfl, (hnext a).mpr h⟩

theorem fails_intText?_iff (i : Int) : Fails (intText? i) ↔ tenPow maxDigits ≤ i.natAbs := by
  unfold intText? Fails
  split <;> simp <;> omega

theorem fails_uploadFields_iff (u : Upload) (separator : String) :
    Fails (uploadFields u separator) ↔ tenPow maxDigits ≤ u.size := by
  have hfields := fails_intText?_iff u.size
  rw [Int.natAbs_natCast] at hfields
  rw [← hfields]
  exact fails_return_iff _

/-! ### Collections -/

theorem fails_shownAll_iff (items : List Value) :
    Fails (shownAll items) ↔ ∃ w ∈ items, Fails w.shown := by
  induction items with
  | nil => simp [shownAll, not_fails_ok]
  | cons v rest ih =>
    rw [List.exists_mem_cons_iff, ← ih, shownAll]
    exact fails_bind_iff_or fun _ => fails_return_iff _

theorem fails_shownEntries_iff (entries : List (Value × Value)) :
    Fails (shownEntries entries) ↔ ∃ w ∈ (map entries).parts, Fails w.shown := by
  induction entries with
  | nil => simp [shownEntries, not_fails_ok, parts]
  | cons e rest ih =>
    obtain ⟨k, v⟩ := e
    have hparts : (∃ w ∈ (map ((k, v) :: rest)).parts, Fails w.shown) ↔
        Fails k.shown ∨ Fails v.shown ∨ ∃ w ∈ (map rest).parts, Fails w.shown := by
      simp only [parts, List.map_cons, List.cons_append, List.mem_append, List.mem_cons,
        or_and_right, exists_or, exists_eq_left]
      exact or_congr_right or_left_comm
    rw [hparts, ← ih, shownEntries]
    exact fails_bind_iff_or fun _ => fails_bind_iff_or fun _ => fails_return_iff _

theorem hasLongNumber_int_iff (i : Int) : HasLongNumber (int i) ↔ tenPow maxDigits ≤ i.natAbs := by
  refine ⟨fun h => ?_, .number⟩
  cases h with
  | number long => exact long
  | part mem long => cases mem

theorem hasLongNumber_upload_iff (u : Upload) :
    HasLongNumber (upload u) ↔ tenPow maxDigits ≤ u.size := by
  refine ⟨fun h => ?_, .size⟩
  cases h with
  | size long => exact long
  | part mem long => cases mem

/-- A value that is neither a number nor an upload holds a long number in one of its parts. -/
theorem hasLongNumber_iff_of_parts {v : Value} (hnumber : ∀ i, v ≠ int i)
    (hupload : ∀ u, v ≠ upload u) : HasLongNumber v ↔ ∃ w ∈ v.parts, HasLongNumber w := by
  constructor
  · intro h
    cases h with
    | number long => exact absurd rfl (hnumber _)
    | size long => exact absurd rfl (hupload _)
    | part mem long => exact ⟨_, mem, long⟩
  · rintro ⟨w, mem, long⟩
    exact .part mem long

theorem fails_shown_iff (v : Value) : Fails v.shown ↔ HasLongNumber v := by
  induction v using induction_on_parts with
  | step v ih =>
    have hparts : (∃ w ∈ v.parts, Fails w.shown) ↔ ∃ w ∈ v.parts, HasLongNumber w :=
      exists_congr fun w => and_congr_right fun hw => ih w hw
    cases v with
    | int i =>
      rw [shown, hasLongNumber_int_iff]
      exact fails_intText?_iff i
    | upload u =>
      rw [shown, hasLongNumber_upload_iff, ← fails_uploadFields_iff u ", "]
      exact fails_return_iff _
    | list items =>
      rw [shown, hasLongNumber_iff_of_parts (by simp) (by simp), ← hparts]
      exact (fails_return_iff _).trans (fails_shownAll_iff items)
    | tuple items =>
      rw [shown, hasLongNumber_iff_of_parts (by simp) (by simp), ← hparts]
      refine Iff.trans ?_ (fails_shownAll_iff items)
      refine (fails_bind_iff_or (P := False) fun texts => ?_).trans (or_iff_left id)
      split <;> exact iff_false_intro (not_fails_ok _)
    | set items =>
      rw [shown, hasLongNumber_iff_of_parts (by simp) (by simp), ← hparts]
      cases items with
      | nil => simp [not_fails_ok, parts, pure, Except.pure]
      | cons w rest => exact (fails_return_iff _).trans (fails_shownAll_iff (w :: rest))
    | map entries =>
      rw [shown, hasLongNumber_iff_of_parts (by simp) (by simp), ← hparts]
      exact (fails_return_iff _).trans (fails_shownEntries_iff entries)
    | _ =>
      rw [hasLongNumber_iff_of_parts (by simp) (by simp)]
      simp [shown, not_fails_ok, parts]

theorem fails_plain_iff (v : Value) : Fails v.plain ↔ HasLongNumber v := by
  cases v with
  | text _ | decimal _ | date _ | moment _ | spec _ =>
    rw [hasLongNumber_iff_of_parts (by simp) (by simp)]
    simp [plain, not_fails_ok, parts]
  | upload u =>
    rw [hasLongNumber_upload_iff]
    exact fails_uploadFields_iff u " "
  | _ => exact fails_shown_iff _

/-! ### Faults -/

theorem eq_error_iff_of_raises {step : Except Fault α} (h : Raises (· = tooManyDigits) step)
    (fault : Fault) : step = .error fault ↔ fault = tooManyDigits ∧ Fails step := by
  constructor
  · intro hfault
    exact ⟨h fault hfault, fault, hfault⟩
  · rintro ⟨rfl, other, hother⟩
    rw [hother, h other hother]

/-- A value has no text that shows its structure iff it holds a number of too many digits. -/
theorem shown_eq_error_iff (v : Value) (fault : Fault) :
    v.shown = .error fault ↔ fault = tooManyDigits ∧ HasLongNumber v := by
  rw [eq_error_iff_of_raises (raises_shown v), fails_shown_iff]

/-- A value has no text iff it holds a number of too many digits. -/
theorem plain_eq_error_iff (v : Value) (fault : Fault) :
    v.plain = .error fault ↔ fault = tooManyDigits ∧ HasLongNumber v := by
  rw [eq_error_iff_of_raises (raises_plain v), fails_plain_iff]

end PayloadCheck.Value
