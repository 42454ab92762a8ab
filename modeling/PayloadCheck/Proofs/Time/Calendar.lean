import Mathlib.Algebra.Ring.Nat
import Mathlib.Tactic.SplitIfs
import PayloadCheck.Time.Moment

/-!
# Days, moments and their numbers

The days of the years 1 to 9999 are numbered one after the other: the number of the next day is one
more (`toDays_next`), every number below the limit is that of a day (`toDays_ofDays`), and a day is
told by its number (`ofDays_toDays`). So a moment without an offset is told by its microseconds, and
there is one for every count of them within these years (`ticks_ofTicks?`, `ofTicks?_ticks`).
-/

namespace PayloadCheck.Time

/-! ### Years -/

theorem daysBeforeYear_eq (y : Nat) :
    daysBeforeYear y = 365 * (y - 1) + (y - 1) / 4 - (y - 1) / 100 + (y - 1) / 400 := rfl

theorem isLeap_iff (y : Nat) : isLeap y = true ↔ y % 4 = 0 ∧ (y % 100 ≠ 0 ∨ y % 400 = 0) := by
  simp [isLeap]

/-- Every fourth year is a day longer, but for the centuries, of which every fourth is. -/
theorem daysInYear_eq (y : Nat) :
    daysInYear y + (if y % 100 = 0 then 1 else 0) =
      365 + (if y % 4 = 0 then 1 else 0) + (if y % 400 = 0 then 1 else 0) := by
  simp only [daysInYear, isLeap_iff]
  split_ifs <;> omega

theorem daysBeforeYear_succ {y : Nat} (h : 1 ≤ y) :
    daysBeforeYear (y + 1) = daysBeforeYear y + daysInYear y := by
  obtain ⟨a, rfl⟩ : ∃ a, y = a + 1 := ⟨y - 1, by omega⟩
  have hfour : (a + 1) / 4 = a / 4 + if (a + 1) % 4 = 0 then 1 else 0 := by split <;> omega
  have hcentury : (a + 1) / 100 = a / 100 + if (a + 1) % 100 = 0 then 1 else 0 := by
    split <;> omega
  have hcycle : (a + 1) / 400 = a / 400 + if (a + 1) % 400 = 0 then 1 else 0 := by split <;> omega
  have hlength := daysInYear_eq (a + 1)
  have hle : a / 100 ≤ a := Nat.div_le_self a 100
  have hone : (if (a + 1) % 100 = 0 then 1 else 0 : Nat) ≤ 1 := by split <;> omega
  rw [daysBeforeYear_eq, daysBeforeYear_eq, Nat.add_sub_cancel, Nat.add_sub_cancel, hfour, hcentury,
    hcycle]
  -- from here on the remainders do not matter
  generalize (if (a + 1) % 100 = 0 then 1 else 0 : Nat) = century at hlength hone ⊢
  generalize a / 100 = centuries at hle ⊢
  omega

theorem daysBeforeYear_mono {y z : Nat} (h : y ≤ z) : daysBeforeYear y ≤ daysBeforeYear z := by
  induction h with
  | refl => exact Nat.le_refl _
  | @step z hle ih =>
    cases z with
    | zero => exact ih
    | succ z =>
      refine Nat.le_trans ih ?_
      rw [daysBeforeYear_succ (Nat.succ_pos z)]
      exact Nat.le_add_right _ _

/-- The days before a year, against the mean length of a year, 146097 / 400 days. -/
theorem daysBeforeYear_bounds (a : Nat) :
    146097 * a ≤ 400 * daysBeforeYear (a + 1) + 699 ∧
      400 * daysBeforeYear (a + 1) ≤ 146097 * a + 396 := by
  rw [daysBeforeYear_eq, Nat.add_sub_cancel]
  omega

/-- The first guess at the year of a day is wrong by one year at most. -/
theorem yearOfDays_spec (n : Nat) :
    1 ≤ Date.yearOfDays n ∧ daysBeforeYear (Date.yearOfDays n) ≤ n ∧
      n < daysBeforeYear (Date.yearOfDays n + 1) := by
  have hguess : n * 400 / 146097 * 146097 ≤ n * 400 ∧ n * 400 < (n * 400 / 146097 + 1) * 146097 := by
    omega
  simp only [Date.yearOfDays]
  generalize n * 400 / 146097 = guess at hguess
  have hguessed := daysBeforeYear_bounds guess
  -- the guess is a year too late, or a year too early, or right
  split
  · next hearlier =>
    have hpos : 1 ≤ guess := by omega
    have hbefore := daysBeforeYear_bounds (guess - 1)
    rw [Nat.sub_add_cancel hpos] at hbefore
    rw [Nat.add_sub_cancel]
    omega
  · split
    · next hlater =>
      have hafter := daysBeforeYear_bounds (guess + 1 + 1)
      omega
    · omega

/-- A year is told by the days before it and before the next one. -/
theorem year_unique {y z n : Nat} (hy : daysBeforeYear y ≤ n) (hy' : n < daysBeforeYear (y + 1))
    (hz : daysBeforeYear z ≤ n) (hz' : n < daysBeforeYear (z + 1)) : y = z := by
  rcases Nat.lt_trichotomy y z with h | h | h
  · have : daysBeforeYear (y + 1) ≤ daysBeforeYear z := daysBeforeYear_mono h
    omega
  · exact h
  · have : daysBeforeYear (z + 1) ≤ daysBeforeYear y := daysBeforeYear_mono h
    omega

/-! ### Months

A day of a year is told by the place of its month among the lengths of the months, and by its own
place in that month, both counted from zero. -/

theorem length_monthLengths (leap : Bool) : (monthLengths leap).length = 12 := by
  cases leap <;> rfl

theorem sum_monthLengths (y : Nat) : (monthLengths (isLeap y)).sum = daysInYear y := by
  unfold daysInYear
  cases isLeap y <;> rfl

theorem sum_take_succ {lengths : List Nat} {i : Nat} (hi : i < lengths.length) :
    (lengths.take (i + 1)).sum = (lengths.take i).sum + lengths[i] := by
  rw [List.take_add_one, List.sum_append, List.getElem?_eq_getElem hi]
  simp

theorem sum_take_add_lt {lengths : List Nat} {i j : Nat} (hi : i < lengths.length)
    (hj : j < lengths[i]) : (lengths.take i).sum + j < lengths.sum := by
  have hsplit : (lengths.take (i + 1)).sum + (lengths.drop (i + 1)).sum = lengths.sum := by
    rw [← List.sum_append, List.take_append_drop]
  rw [sum_take_succ hi] at hsplit
  omega

/-- The day `n` lies in the month in which the lengths are used up. -/
theorem locate_eq {lengths : List Nat} {i : Nat} (hi : i < lengths.length) {j : Nat}
    (hj : j < lengths[i]) (month : Nat) :
    Date.locate lengths month ((lengths.take i).sum + j) = (month + i, j + 1) := by
  induction lengths generalizing i month with
  | nil => cases hi
  | cons len rest ih =>
    cases i with
    | zero =>
      rw [List.getElem_cons_zero] at hj
      simp [Date.locate, hj]
    | succ i =>
      have hnot : ¬ len + (rest.take i).sum + j < len := by omega
      have hrest : len + (rest.take i).sum + j - len = (rest.take i).sum + j := by omega
      simp only [List.take_succ_cons, List.sum_cons, Date.locate, hnot, if_false, hrest]
      rw [ih (by simpa using hi) (by simpa using hj)]
      simp [Nat.add_assoc, Nat.add_comm 1 i]

theorem exists_place {lengths : List Nat} {n : Nat} (h : n < lengths.sum) :
    ∃ i j, ∃ hi : i < lengths.length, j < lengths[i] ∧ n = (lengths.take i).sum + j := by
  induction lengths generalizing n with
  | nil => simp at h
  | cons len rest ih =>
    by_cases hn : n < len
    · exact ⟨0, n, by simp, by simpa using hn, by simp⟩
    · rw [List.sum_cons] at h
      obtain ⟨i, j, hi, hj, heq⟩ := ih (n := n - len) (by omega)
      refine ⟨i + 1, j, by simpa using hi, by simpa using hj, ?_⟩
      simp only [List.take_succ_cons, List.sum_cons]
      omega

/-! ### Days -/

namespace Date

section Place

variable {y i j : Nat} (hi : i < (monthLengths (isLeap y)).length)
include hi

theorem daysInMonth_place : daysInMonth y (i + 1) = (monthLengths (isLeap y))[i] := by
  simp [daysInMonth, List.getElem?_eq_getElem hi]

theorem isValid_place (hj : j < (monthLengths (isLeap y))[i]) :
    (⟨y, i + 1, j + 1⟩ : Date).isValid = true ↔ 1 ≤ y ∧ y ≤ 9999 := by
  have hmonth : i < 12 := by rwa [length_monthLengths] at hi
  simp only [isValid, daysInMonth_place hi, Bool.and_eq_true, decide_eq_true_eq]
  omega

theorem toDays_lt_place (hy : 1 ≤ y) (hj : j < (monthLengths (isLeap y))[i]) :
    (⟨y, i + 1, j + 1⟩ : Date).toDays < daysBeforeYear (y + 1) := by
  have hlt := sum_take_add_lt hi hj
  rw [sum_monthLengths] at hlt
  simp only [toDays, daysBeforeMonth, ← List.sum_eq_foldl, Nat.add_sub_cancel]
  rw [daysBeforeYear_succ hy]
  omega

theorem ofDays_place (hy : 1 ≤ y) (hj : j < (monthLengths (isLeap y))[i]) :
    ofDays (⟨y, i + 1, j + 1⟩ : Date).toDays = ⟨y, i + 1, j + 1⟩ := by
  have hlt := toDays_lt_place hi hy hj
  have hdays : (⟨y, i + 1, j + 1⟩ : Date).toDays =
      daysBeforeYear y + (((monthLengths (isLeap y)).take i).sum + j) := by
    simp [toDays, daysBeforeMonth, ← List.sum_eq_foldl, Nat.add_assoc]
  obtain ⟨-, hle', hlt'⟩ := yearOfDays_spec (⟨y, i + 1, j + 1⟩ : Date).toDays
  have hyear : yearOfDays (⟨y, i + 1, j + 1⟩ : Date).toDays = y :=
    year_unique hle' hlt' (by omega) hlt
  simp only [ofDays, hyear]
  rw [hdays, Nat.add_sub_cancel_left, locate_eq hi hj]
  simp [Nat.add_comm]

end Place

theorem exists_place {d : Date} (h : d.isValid = true) :
    ∃ i j, ∃ hi : i < (monthLengths (isLeap d.year)).length,
      j < (monthLengths (isLeap d.year))[i] ∧ d = ⟨d.year, i + 1, j + 1⟩ := by
  obtain ⟨y, month, day⟩ := d
  simp only [isValid, Bool.and_eq_true, decide_eq_true_eq] at h
  obtain ⟨⟨⟨⟨⟨-, -⟩, hmonth⟩, hmonth'⟩, hday⟩, hday'⟩ := h
  have hi : month - 1 < (monthLengths (isLeap y)).length := by
    rw [length_monthLengths]
    omega
  have hplace := daysInMonth_place hi
  rw [Nat.sub_add_cancel hmonth] at hplace
  have hj : day - 1 < (monthLengths (isLeap y))[month - 1] := by omega
  refine ⟨month - 1, day - 1, hi, hj, ?_⟩
  rw [Nat.sub_add_cancel hmonth, Nat.sub_add_cancel hday]

theorem year_of_isValid {d : Date} (h : d.isValid = true) : 1 ≤ d.year ∧ d.year ≤ 9999 := by
  obtain ⟨i, j, hi, hj, heq⟩ := exists_place h
  rw [heq] at h
  exact (isValid_place hi hj).mp h

theorem bounds_of_isValid {d : Date} (h : d.isValid = true) :
    d.year ≤ 9999 ∧ (1 ≤ d.month ∧ d.month ≤ 12) ∧ 1 ≤ d.day ∧ d.day ≤ 31 := by
  have hlengths : ∀ leap, ∀ length ∈ monthLengths leap, length ≤ 31 := by decide
  obtain ⟨i, j, hi, hj, heq⟩ := exists_place h
  have hlength := hlengths _ _ (List.getElem_mem hi)
  have hyear := year_of_isValid h
  rw [length_monthLengths] at hi
  rw [heq]
  dsimp only
  omega

/-- A day is told by its number. -/
theorem ofDays_toDays {d : Date} (h : d.isValid = true) : ofDays d.toDays = d := by
  obtain ⟨i, j, hi, hj, heq⟩ := exists_place h
  rw [heq]
  exact ofDays_place hi (year_of_isValid h).1 hj

theorem toDays_lt {d : Date} (h : d.isValid = true) : d.toDays < dayLimit := by
  obtain ⟨i, j, hi, hj, heq⟩ := exists_place h
  obtain ⟨hy, hy'⟩ := year_of_isValid h
  have hlt := toDays_lt_place hi hy hj
  rw [← heq] at hlt
  have hlimit : daysBeforeYear 10000 = dayLimit := rfl
  have hle : daysBeforeYear (d.year + 1) ≤ daysBeforeYear 10000 := daysBeforeYear_mono (by omega)
  omega

/-- Every number below the limit is that of a day. -/
theorem toDays_ofDays {n : Nat} (h : n < dayLimit) :
    (ofDays n).isValid = true ∧ (ofDays n).toDays = n := by
  obtain ⟨hy, hle, hlt⟩ := yearOfDays_spec n
  generalize hyear : yearOfDays n = y at hy hle hlt
  rw [daysBeforeYear_succ hy, ← sum_monthLengths] at hlt
  have hrest : n - daysBeforeYear y < (monthLengths (isLeap y)).sum := by omega
  obtain ⟨i, j, hi, hj, hrest⟩ := Time.exists_place hrest
  have hn : n = (⟨y, i + 1, j + 1⟩ : Date).toDays := by
    simp only [toDays, daysBeforeMonth, ← List.sum_eq_foldl, Nat.add_sub_cancel]
    omega
  have hy' : y ≤ 9999 := by
    have hlimit : daysBeforeYear 10000 = dayLimit := rfl
    have hmono : 10000 ≤ y → daysBeforeYear 10000 ≤ daysBeforeYear y := daysBeforeYear_mono
    omega
  rw [hn, ofDays_place hi hy hj]
  exact ⟨(isValid_place hi hj).mpr ⟨hy, hy'⟩, rfl⟩

/-- The day after a day. -/
def next (d : Date) : Date :=
  if d.day < daysInMonth d.year d.month then { d with day := d.day + 1 }
  else if d.month < 12 then ⟨d.year, d.month + 1, 1⟩
  else ⟨d.year + 1, 1, 1⟩

/-- Days are numbered one after the other, across the ends of months and years. -/
theorem toDays_next {d : Date} (h : d.isValid = true) : d.next.toDays = d.toDays + 1 := by
  obtain ⟨i, j, hi, hj, heq⟩ := exists_place h
  obtain ⟨hy, -⟩ := year_of_isValid h
  generalize d.year = y at hi hj heq hy
  subst heq
  have hday : daysInMonth y (i + 1) = (monthLengths (isLeap y))[i] := daysInMonth_place hi
  have hsum := sum_take_succ hi
  simp only [next, hday]
  -- the next day is in the same month, or the first of the next month, or the first of January
  split
  · simp [toDays]
    omega
  · split
    · simp only [toDays, daysBeforeMonth, ← List.sum_eq_foldl, Nat.add_sub_cancel]
      omega
    · have hlast : i + 1 = 12 := by
        rw [length_monthLengths] at hi
        omega
      have hall : ((monthLengths (isLeap y)).take (i + 1)).sum = daysInYear y := by
        rw [hlast, List.take_of_length_le (Nat.le_of_eq (length_monthLengths _)), sum_monthLengths]
      simp only [toDays, daysBeforeMonth, ← List.sum_eq_foldl, Nat.add_sub_cancel]
      rw [daysBeforeYear_succ hy]
      simp
      omega

end Date

/-! ### Moments -/

namespace Moment

/-- Counts of microseconds within the years 1 to 9999. -/
def InYears (t : Int) : Prop := 0 ≤ t ∧ t < (daysBeforeYear 10000 * ticksPerDay : Nat)

theorem isValid_iff (m : Moment) : m.isValid = true ↔
    m.date.isValid = true ∧ m.hour < 24 ∧ m.minute < 60 ∧ m.second < 60 ∧
      m.micro < ticksPerSecond ∧ m.offset.all isOffset = true := by
  simp [isValid, and_assoc]

theorem dayTicks_lt {m : Moment} (h : m.isValid = true) : m.dayTicks < ticksPerDay := by
  obtain ⟨-, hhour, hminute, hsecond, hmicro, -⟩ := (isValid_iff m).mp h
  unfold dayTicks ticksPerDay ticksPerSecond at *
  omega

theorem inYears_ticks {m : Moment} (h : m.isValid = true) : InYears m.ticks := by
  have hday : m.date.toDays < daysBeforeYear 10000 := Date.toDays_lt ((isValid_iff m).mp h).1
  have hticks := dayTicks_lt h
  unfold InYears ticks
  generalize daysBeforeYear 10000 = limit at hday ⊢
  have hmul : (m.date.toDays + 1) * ticksPerDay ≤ limit * ticksPerDay :=
    Nat.mul_le_mul_right _ hday
  rw [Nat.add_mul] at hmul
  omega

/-- There is a moment for every count of microseconds within the years. -/
theorem ticks_ofTicks? {t : Int} (h : InYears t) :
    ∃ u, ofTicks? t = some u ∧ u.isValid = true ∧ u.offset = none ∧ u.ticks = t := by
  obtain ⟨hpos, hlt⟩ := h
  obtain ⟨n, rfl⟩ := Int.eq_ofNat_of_zero_le hpos
  have hlimit : daysBeforeYear 10000 = Date.dayLimit := rfl
  have hlt : n < ticksPerDay * Date.dayLimit := by
    rw [← hlimit, Nat.mul_comm]
    exact Int.ofNat_lt.mp hlt
  have hday : n / ticksPerDay < Date.dayLimit := Nat.div_lt_of_lt_mul hlt
  obtain ⟨hvalid, hdays⟩ := Date.toDays_ofDays hday
  have hofDays : Date.ofDays? ((n : Int) / (ticksPerDay : Nat)) =
      some (Date.ofDays (n / ticksPerDay)) := by
    rw [← Int.natCast_ediv, Date.ofDays?, if_pos ⟨Int.natCast_nonneg _, by exact_mod_cast hday⟩]
    rfl
  have hrest : ((n : Int) % (ticksPerDay : Nat)).toNat = n % ticksPerDay := by
    rw [← Int.natCast_emod, Int.toNat_natCast]
  have hmod : n % ticksPerDay < ticksPerDay := Nat.mod_lt _ (by decide)
  have hdiv : ticksPerDay * (n / ticksPerDay) + n % ticksPerDay = n := Nat.div_add_mod _ _
  simp only [ofTicks?, hofDays, Option.map_some, hrest]
  refine ⟨_, rfl, ?_, rfl, ?_⟩
  · rw [isValid_iff]
    generalize n % ticksPerDay = r at hmod
    refine ⟨hvalid, ?_, ?_, ?_, ?_, rfl⟩ <;> dsimp only <;> unfold ticksPerDay at hmod <;>
      unfold ticksPerSecond at * <;> omega
  · have hticks : ∀ r, ((r / ticksPerSecond / 3600 * 60 + r / ticksPerSecond / 60 % 60) * 60 +
        r / ticksPerSecond % 60) * ticksPerSecond + r % ticksPerSecond = r := by
      intro r
      unfold ticksPerSecond
      omega
    simp only [ticks, dayTicks, hdays, hticks]
    rw [Nat.mul_comm] at hdiv
    exact_mod_cast hdiv

/-- A moment without an offset is told by its count of microseconds. -/
theorem ofTicks?_ticks {m : Moment} (h : m.isValid = true) (hoffset : m.offset = none) :
    ofTicks? m.ticks = some m := by
  have hdayTicks := dayTicks_lt h
  obtain ⟨hdate, hhour, hminute, hsecond, hmicro, -⟩ := (isValid_iff m).mp h
  have hquotient : m.ticks / (ticksPerDay : Nat) = m.date.toDays := by
    unfold ticks
    rw [Int.add_comm, Int.add_mul_ediv_right _ _ (by decide), Int.ediv_eq_zero_of_lt (by omega)
      (by exact_mod_cast hdayTicks), Int.zero_add]
  have hrest : (m.ticks % (ticksPerDay : Nat)).toNat = m.dayTicks := by
    unfold ticks
    rw [Int.add_comm, Int.add_mul_emod_self_right, ← Int.natCast_emod, Int.toNat_natCast,
      Nat.mod_eq_of_lt hdayTicks]
  have hday : Date.ofDays? (m.date.toDays : Int) = some m.date := by
    rw [Date.ofDays?, if_pos ⟨Int.natCast_nonneg _, by exact_mod_cast Date.toDays_lt hdate⟩,
      Int.toNat_natCast, Date.ofDays_toDays hdate]
  have hseconds : m.dayTicks / ticksPerSecond = (m.hour * 60 + m.minute) * 60 + m.second := by
    unfold dayTicks ticksPerSecond at *
    omega
  have hmicro' : m.dayTicks % ticksPerSecond = m.micro := by
    unfold dayTicks ticksPerSecond at *
    omega
  rw [ofTicks?, hquotient, hday, hrest]
  simp only [Option.map_some, hseconds, hmicro']
  obtain ⟨date, hour, minute, second, micro, offset⟩ := m
  simp only at hhour hminute hsecond hoffset ⊢
  have hhour' : ((hour * 60 + minute) * 60 + second) / 3600 = hour := by omega
  have hminute' : ((hour * 60 + minute) * 60 + second) / 60 % 60 = minute := by omega
  have hsecond' : ((hour * 60 + minute) * 60 + second) % 60 = second := by omega
  rw [hhour', hminute', hsecond', hoffset]

theorem eq_of_ticks_eq {u w : Moment} (hu : u.isValid = true ∧ u.offset = none)
    (hw : w.isValid = true ∧ w.offset = none) (h : u.ticks = w.ticks) : u = w := by
  have hsame := ofTicks?_ticks hu.1 hu.2
  rw [h, ofTicks?_ticks hw.1 hw.2] at hsame
  exact (Option.some.inj hsame).symm

end Moment

end PayloadCheck.Time
