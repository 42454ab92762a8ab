import PayloadCheck.Proofs.Raising
import PayloadCheck.Value.Scalar

/-!
# What looking at a value may raise

A value can be written down unless an integer of too many digits is in it, and no other fault comes
of writing it (`raises_shown`, `raises_comparable`). Reading a number from it or comparing it
loosely with another one raises no more than faults of its content.
-/

namespace PayloadCheck.Value

/-! ### Texts -/

theorem raises_intText? (i : Int) : Raises (· = tooManyDigits) (intText? i) := by
  unfold intText?
  exact .ite (.ok _) (.error rfl)

theorem raises_uploadFields (u : Upload) (separator : String) :
    Raises (· = tooManyDigits) (uploadFields u separator) :=
  (raises_intText? u.size).bind fun _ => .ok _

mutual

theorem raises_shown : ∀ v : Value, Raises (· = tooManyDigits) v.shown
  | absent | null | bool _ | double _ | decimal _ | text _ | bytes _ | date _ | moment _
  | spec _ => by
    unfold shown
    exact .ok _
  | int i => by
    unfold shown
    exact raises_intText? i
  | list items => by
    unfold shown
    exact (raises_shownAll items).bind fun _ => .ok _
  | tuple items => by
    unfold shown
    refine (raises_shownAll items).bind fun texts => ?_
    split <;> exact .ok _
  | set items => by
    unfold shown
    split
    · exact .ok _
    · exact (raises_shownAll items).bind fun _ => .ok _
  | map entries => by
    unfold shown
    exact (raises_shownEntries entries).bind fun _ => .ok _
  | upload u => by
    unfold shown
    exact (raises_uploadFields u ", ").bind fun _ => .ok _

theorem raises_shownAll : ∀ items : List Value, Raises (· = tooManyDigits) (shownAll items)
  | [] => by
    unfold shownAll
    exact .ok _
  | v :: vs => by
    unfold shownAll
    exact (raises_shown v).bind fun _ => (raises_shownAll vs).bind fun _ => .ok _

theorem raises_shownEntries : ∀ entries : List (Value × Value),
    Raises (· = tooManyDigits) (shownEntries entries)
  | [] => by
    unfold shownEntries
    exact .ok _
  | (k, v) :: rest => by
    unfold shownEntries
    exact (raises_shown k).bind fun _ => (raises_shown v).bind fun _ =>
      (raises_shownEntries rest).bind fun _ => .ok _

end

theorem raises_plain (v : Value) : Raises (· = tooManyDigits) v.plain := by
  unfold plain
  split
  case h_5 u => exact raises_uploadFields u " "
  case h_7 => exact raises_shown _
  all_goals exact .ok _

theorem raises_comparable (v : Value) : Raises (· = tooManyDigits) v.comparable := by
  unfold comparable
  split
  case h_4 =>
    split
    · exact raises_intText? _
    · exact .ok _
  case h_5 => exact raises_plain _
  all_goals exact .ok _

/-! ### Numbers -/

theorem isBadValue_tooManyDigits : IsBadValue tooManyDigits := ⟨_, rfl⟩

theorem raises_integerOf (s : String) : Raises IsBadValue (integerOf s) := by
  unfold integerOf
  split
  · exact .ok _
  · exact .error ⟨_, rfl⟩
  · exact .error ⟨_, rfl⟩

theorem raises_numberOfText (s : String) : Raises IsBadValue (numberOfText s) := by
  unfold numberOfText
  split
  · exact .ok _
  · split
    · exact .ok _
    · exact .error ⟨_, rfl⟩

theorem raises_toNumber (v : Value) : Raises IsBadValue v.toNumber := by
  unfold toNumber
  split
  · exact .ok _
  · exact .ok _
  · split
    · exact .ok _
    · exact .error ⟨_, rfl⟩
  · refine Raises.bind ((raises_plain _).mono ?_) fun _ => raises_numberOfText _
    rintro fault rfl
    exact isBadValue_tooManyDigits

theorem raises_looseEquals (v w : Value) : Raises IsBadValue (looseEquals v w) := by
  have htext : ∀ u : Value, Raises IsBadValue u.comparable := fun u =>
    (raises_comparable u).mono fun fault h => h ▸ isBadValue_tooManyDigits
  unfold looseEquals
  split
  · exact .ok _
  · exact .ok _
  · exact .ite
      ((raises_toNumber v).bind fun _ => (raises_toNumber w).bind fun _ => .ok _)
      (.ite ((htext v).bind fun _ => (htext w).bind fun _ => .ok _) (.ok _))

end PayloadCheck.Value
