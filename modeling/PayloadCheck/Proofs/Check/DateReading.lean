import PayloadCheck.Proofs.Check.Dates
import PayloadCheck.Proofs.Check.Strays
import PayloadCheck.Proofs.Time.Readers

/-!
# What reading a date comes to

A value is read as a moment without an offset or as no date at all, unless it is a moment, or a
text of one, that its offset takes out of the years of the calendar (`dates_are_universal_or_lost`).
That happens on the first and on the last day of the calendar only (`IsLost.date_eq`).
-/

namespace PayloadCheck.Check

open PayloadCheck.Time PayloadCheck.Value

/-! ### Moments in universal time -/

/-- A moment that is not lost is told in universal time as the same instant. -/
theorem toUniversal_of_not_lost {m : Moment} (h : m.isValid = true) (hkept : ¬ IsLost m) :
    ∃ u, m.toUniversal = .ok u ∧ u.IsUniversal ∧ u.ticks = m.instant := by
  cases hoffset : m.offset with
  | none =>
    refine ⟨m, ?_, ⟨h, hoffset⟩, ?_⟩
    · rw [Moment.toUniversal, hoffset]
    · simp [Moment.instant, hoffset]
  | some offset =>
    have hin : Moment.InYears m.instant := by
      by_contra hout
      exact hkept ⟨by rw [hoffset]; rfl, hout⟩
    obtain ⟨u, hu, hvalid, hnone, hticks⟩ := toUniversal_of_offset hoffset hin
    refine ⟨u, hu, ⟨hvalid, hnone⟩, ?_⟩
    rw [hticks, Moment.instant, hoffset]
    rfl

theorem isUniversal_of_toUniversal {m u : Moment} (h : m.isValid = true)
    (hu : some <$> m.toUniversal = .ok (some u)) : u.IsUniversal := by
  have hkept : ¬ IsLost m := by
    intro hlost
    rw [toUniversal_eq_error_iff.mpr ⟨hlost, rfl⟩] at hu
    cases hu
  obtain ⟨w, hw, hwuniversal, -⟩ := toUniversal_of_not_lost h hkept
  rw [hw] at hu
  cases hu
  exact hwuniversal

/-- Only on the first and on the last day of the calendar is a moment lost. -/
theorem IsLost.date_eq {m : Moment} (hlost : IsLost m) (h : m.isValid = true) :
    m.date = ⟨1, 1, 1⟩ ∨ m.date = ⟨9999, 12, 31⟩ := by
  obtain ⟨hsome, hout⟩ := hlost
  obtain ⟨offset, hoffset⟩ := Option.isSome_iff_exists.mp hsome
  obtain ⟨hdate, -, -, -, -, hbounded⟩ := (Moment.isValid_iff m).mp h
  have hday : m.date = Date.ofDays m.date.toDays := (Date.ofDays_toDays hdate).symm
  have hlimit : m.date.toDays < Date.dayLimit := Date.toDays_lt hdate
  have hclock := Moment.dayTicks_lt h
  have hshort : offset.natAbs < ticksPerDay := by
    rw [hoffset] at hbounded
    exact of_decide_eq_true hbounded
  -- on every other day the offset, less than a day long, stays within the calendar
  have hedge : m.date.toDays = 0 ∨ m.date.toDays = Date.dayLimit - 1 := by
    by_contra hinside
    refine hout ?_
    have hyears : daysBeforeYear 10000 = Date.dayLimit := rfl
    rw [Moment.InYears, Moment.instant, Moment.ticks, hoffset, hyears]
    simp only [Option.getD_some, ticksPerDay, ticksPerSecond, Date.dayLimit] at *
    omega
  rcases hedge with hfirst | hlast
  · rw [hfirst] at hday
    exact Or.inl hday
  · rw [hlast] at hday
    exact Or.inr hday

/-! ### Texts -/

theorem isUniversal_of_notedDate {cs : List Char} {u : Moment}
    (h : notedDate cs = .ok (some u)) : u.IsUniversal := by
  unfold notedDate at h
  split at h
  · next m hread => exact isUniversal_of_toUniversal (isValid_of_readIso? hread) h
  · have hformats : ∀ f ∈ dateFormats, (Format.repeated? [] 1 0 f).isNone = true ∧
        Directive.offset ∉ f.directives := by decide
    obtain ⟨f, hf, htold⟩ := List.exists_of_findSome?_eq_some (Except.ok.inj h)
    obtain ⟨hrepeated, hoffset⟩ := hformats f hf
    rw [Format.read_ofList (Option.isNone_iff_eq_none.mp hrepeated)] at htold
    exact Format.told_eq_some hoffset htold

/-- What a clock shows: a moment without an offset, neither on the first nor on the last day of the
calendar. -/
structure IsClock (now : Moment) : Prop where
  universal : now.IsUniversal
  yesterday : 0 < now.date.toDays
  tomorrow : now.date.toDays + 1 < Date.dayLimit

/-- A value that is no date, or a date or a moment that exists. -/
def IsOnCalendar : Value → Prop
  | .date d => d.isValid = true
  | .moment m => m.isValid = true
  | _ => True

section Clock

variable {now : Moment} (hnow : IsClock now)
include hnow

theorem IsClock.wordDate?_eq_some {word : String}
    (hword : ["now", "today", "tomorrow", "yesterday"].contains word = true) :
    ∃ u, wordDate? now word = some u ∧ u.IsUniversal := by
  have hday : ∀ n : Int, 0 ≤ now.date.toDays + n → now.date.toDays + n < Date.dayLimit →
      ∃ u, (Date.ofDays? (now.date.toDays + n)).map Moment.midnight = some u ∧ u.IsUniversal := by
    intro n hpos hlt
    obtain ⟨d, hd⟩ := Date.ofDays?_eq_some hpos hlt
    refine ⟨.midnight d, ?_, Moment.isUniversal_midnight (Date.isValid_of_ofDays? hd)⟩
    rw [hd, Option.map_some]
  have hyesterday := hnow.yesterday
  have htomorrow := hnow.tomorrow
  simp only [List.contains_iff_mem, List.mem_cons, List.not_mem_nil, or_false] at hword
  rcases hword with rfl | rfl | rfl | rfl
  · exact ⟨now, rfl, hnow.universal⟩
  · exact hday 0 (by omega) (by omega)
  · exact hday 1 (by omega) (by omega)
  · exact hday (-1) (by omega) (by omega)

/-- The words that are told by the clock are all read. -/
theorem readDate_of_word {s : String} (hword : tellsByClock (.text s) = true) :
    ∃ u, readDate now (.text s) = .ok (some u) ∧ u.IsUniversal := by
  rw [tellsByClock] at hword
  obtain ⟨u, hu, huniversal⟩ := hnow.wordDate?_eq_some hword
  have hsome : (Text.trimChars s.toList).isEmpty = false := by
    cases hcs : Text.trimChars s.toList with
    | nil =>
      have hempty : Text.lower (String.ofList []) = "" := by decide
      have hnone : ["now", "today", "tomorrow", "yesterday"].contains "" = false := by decide
      rw [hcs, hempty, hnone] at hword
      exact Bool.noConfusion hword
    | cons c rest => rfl
  refine ⟨u, ?_, huniversal⟩
  simp only [readDate, hsome, hu, Bool.false_eq_true, if_false]

/-! ### Values -/

theorem isUniversal_of_readDate {v : Value} (hv : IsOnCalendar v) {u : Moment}
    (h : readDate now v = .ok (some u)) : u.IsUniversal := by
  cases v with
  | moment m => exact isUniversal_of_toUniversal hv h
  | date d =>
    cases h
    exact Moment.isUniversal_midnight hv
  | text s =>
    cases hword : tellsByClock (.text s) with
    | true =>
      obtain ⟨w, hw, hwuniversal⟩ := readDate_of_word hnow hword
      cases h.symm.trans hw
      exact hwuniversal
    | false =>
      rw [tellsByClock] at hword
      rw [readDate, wordDate?_eq_none hword] at h
      dsimp only at h
      split at h
      · cases h
      · exact isUniversal_of_notedDate h
  | _ => cases h

end Clock

end PayloadCheck.Check
