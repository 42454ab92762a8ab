import PayloadCheck.Json.Reading
import PayloadCheck.Proofs.Value.Faults

/-!
# What reading JSON may raise

A text is not well formed, or one of its numbers is too long; the fault of such a number is one of
the text's content (`isBadValue_of_read`). The readers of a value, of entries and of items call each
other, so what they may raise is shown for all three at once, by induction on the steps left.
-/

namespace PayloadCheck.Json

open PayloadCheck.Text PayloadCheck.Number

/-- What stops a reading other than a text that is not well formed is the content of a number. -/
def Stop.OfNumber : Stop → Prop
  | .malformed _ _ => True
  | .number outside => IsBadValue outside.fault

theorem raises_stop {α : Type} (what : String) (left : Nat) :
    Raises Stop.OfNumber (stop what left : Except Stop α) :=
  .error trivial

/-! ### Texts and numbers -/

theorem raises_readCode (cs : List Char) : Raises Stop.OfNumber (readCode cs) :=
  .ite (.ok _) (raises_stop _ _)

theorem raises_readCodes (cs : List Char) : Raises Stop.OfNumber (readCodes cs) := by
  refine (raises_readCode cs).bind fun (a, rest) => ?_
  dsimp only
  split
  · exact .ite ((raises_readCode _).bind fun _ => .ok _) (.ok _)
  · exact .ok _

theorem raises_readChars (start steps : Nat) (cs : List Char) :
    Raises Stop.OfNumber (readChars start steps cs) := by
  induction steps generalizing cs with
  | zero => exact raises_stop _ _
  | succ steps ih =>
    cases cs with
    | nil => exact raises_stop _ _
    | cons c rest =>
      refine .ite (.ok _) (.ite ?escape (.ite (raises_stop _ _) ((ih rest).bind fun _ => .ok _)))
      case escape =>
        cases rest with
        | nil => exact raises_stop _ _
        | cons e more =>
          refine .ite ((raises_readCodes more).bind fun _ => (ih _).bind fun _ => .ok _) ?_
          cases escapeLetter? e with
          | none => exact raises_stop _ _
          | some d => exact (ih more).bind fun _ => .ok _

theorem raises_readText (cs : List Char) : Raises Stop.OfNumber (readText cs) :=
  (raises_readChars _ _ cs).bind fun _ => .ok _

theorem raises_value (n : Numeral) : Raises Stop.OfNumber n.value := by
  unfold Numeral.value
  split
  · split
    · exact .ok _
    · next h => exact .error (Value.raises_integerOf _ _ h)
  · exact .ok _

/-! ### Values -/

/-- The three readers stop with no other fault where so many steps are left. -/
def ReadersStop (steps : Nat) : Prop := ∀ cs,
  Raises Stop.OfNumber (readValue steps cs) ∧ Raises Stop.OfNumber (readEntries steps cs) ∧
    Raises Stop.OfNumber (readItems steps cs)

variable {steps : Nat}

theorem raises_readValue_succ (h : ReadersStop steps) (cs : List Char) :
    Raises Stop.OfNumber (readValue (steps + 1) cs) := by
  unfold readValue
  split
  · exact (raises_readText _).bind fun _ => .ok _
  · split
    · exact .ok _
    · exact (h _).2.1.bind fun _ => .ok _
  · split
    · exact .ok _
    · exact (h _).2.2.bind fun _ => .ok _
  · split
    · exact .ok _
    · split
      · exact (raises_value _).bind fun _ => .ok _
      · exact raises_stop _ _

theorem raises_readEntries_succ (h : ReadersStop steps) (cs : List Char) :
    Raises Stop.OfNumber (readEntries (steps + 1) cs) := by
  unfold readEntries
  split
  · refine (raises_readText _).bind fun (key, rest) => ?_
    dsimp only
    split
    · refine (h _).1.bind fun (v, rest) => ?_
      dsimp only
      split
      · exact .ok _
      · exact (h _).2.1.bind fun _ => .ok _
      · exact raises_stop _ _
    · exact raises_stop _ _
  · exact raises_stop _ _

theorem raises_readItems_succ (h : ReadersStop steps) (cs : List Char) :
    Raises Stop.OfNumber (readItems (steps + 1) cs) := by
  unfold readItems
  refine (h _).1.bind fun (v, rest) => ?_
  dsimp only
  split
  · exact .ok _
  · exact (h _).2.2.bind fun _ => .ok _
  · exact raises_stop _ _

theorem readersStop : ∀ steps, ReadersStop steps
  | 0 => fun cs => by
    unfold readValue readEntries readItems
    exact ⟨raises_stop _ _, raises_stop _ _, raises_stop _ _⟩
  | steps + 1 => fun cs => ⟨raises_readValue_succ (readersStop steps) cs,
      raises_readEntries_succ (readersStop steps) cs, raises_readItems_succ (readersStop steps) cs⟩

theorem raises_readAll (cs : List Char) : Raises Stop.OfNumber (readAll cs) :=
  .ite (raises_stop _ _) ((readersStop _ _).1.bind fun _ => .ite (.ok _) (raises_stop _ _))

/-- A number that keeps a text from being read is one of too many digits, which is a fault of the
    text's content. -/
theorem isBadValue_of_read {s : String} {outside : OutsideFault}
    (h : read s = .error (.number outside)) : IsBadValue outside.fault := by
  unfold read at h
  split at h
  · cases h
  · cases h
  · next found hread =>
    cases h
    exact raises_readAll _ _ hread

/-- A text is read as the value at its beginning if nothing but blanks follows. -/
theorem read_of_readValue {s : String} {cs rest : List Char} {v : Value} (hchars : s.toList = cs)
    (hmark : cs.head? ≠ some '\uFEFF')
    (hvalue : readValue (cs.length + 1) (dropBlanks cs) = .ok (v, rest))
    (hrest : dropBlanks rest = []) : read s = .ok v := by
  have hall : readAll cs = .ok v := by
    unfold readAll
    rw [if_neg (by simpa using hmark), hvalue]
    simp only [bind, Except.bind, hrest, List.isEmpty_nil, if_true]
    rfl
  simp only [read, hchars, hall]

end PayloadCheck.Json
