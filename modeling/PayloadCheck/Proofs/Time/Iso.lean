import PayloadCheck.Proofs.Time.Calendar
import PayloadCheck.Proofs.Time.Digits

/-!
# The standard notation is read back

What the reader of the standard notation makes of a moment that is written in it: the moment itself,
whatever character stands between day and time of day, with and without microseconds and offset
(`readIso?_isoChars`), and midnight for a day alone (`readIso?_dateChars`).
-/

namespace PayloadCheck.Time

open PayloadCheck.Number PayloadCheck.Text

/-! ### The characters of a text -/

/-- The characters that stand between the digits of a text. -/
def isoMarks : List Char := ['-', ':', '.', '+']

namespace Moment

theorem length_dateChars (d : Date) : (dateChars d).length = 10 := by
  simp [dateChars, length_padded]

theorem length_fractionChars_le (micro : Nat) : (fractionChars micro).length ≤ 7 := by
  unfold fractionChars
  split <;> simp [length_padded]

theorem length_clockChars_le (m : Moment) : (clockChars m).length ≤ 15 := by
  have hfraction := length_fractionChars_le m.micro
  simp [clockChars, length_padded]
  omega

theorem length_offsetChars_le (offset : Int) : (offsetChars offset).length ≤ 16 := by
  have hfraction := length_fractionChars_le (offset.natAbs % ticksPerSecond)
  simp only [offsetChars]
  generalize (if offset < 0 then '-' else '+') = sign
  split <;> simp [length_padded]
  omega

theorem mem_dateChars {d : Date} {c : Char} (h : c ∈ dateChars d) :
    isAsciiDigit c = true ∨ c = '-' := by
  simp only [dateChars, List.mem_append, List.mem_cons, or_assoc] at h
  rcases h with h | rfl | h | rfl | h
  · exact Or.inl (isAsciiDigit_of_mem_padded h)
  · exact Or.inr rfl
  · exact Or.inl (isAsciiDigit_of_mem_padded h)
  · exact Or.inr rfl
  · exact Or.inl (isAsciiDigit_of_mem_padded h)

theorem mem_fractionChars {micro : Nat} {c : Char} (h : c ∈ fractionChars micro) :
    isAsciiDigit c = true ∨ c = '.' := by
  unfold fractionChars at h
  split at h
  · cases h
  · rcases List.mem_cons.mp h with rfl | h
    · exact Or.inr rfl
    · exact Or.inl (isAsciiDigit_of_mem_padded h)

theorem mem_clockChars {m : Moment} {c : Char} (h : c ∈ clockChars m) :
    isAsciiDigit c = true ∨ c = ':' ∨ c = '.' := by
  simp only [clockChars, List.mem_append, List.mem_cons, or_assoc] at h
  rcases h with h | rfl | h | rfl | h | h
  · exact Or.inl (isAsciiDigit_of_mem_padded h)
  · exact Or.inr (Or.inl rfl)
  · exact Or.inl (isAsciiDigit_of_mem_padded h)
  · exact Or.inr (Or.inl rfl)
  · exact Or.inl (isAsciiDigit_of_mem_padded h)
  · exact (mem_fractionChars h).imp_right Or.inr

theorem mem_offsetChars {offset : Int} {c : Char} (h : c ∈ offsetChars offset) :
    isAsciiDigit c = true ∨ c ∈ isoMarks := by
  simp only [offsetChars, List.mem_append, List.mem_cons, or_assoc] at h
  rcases h with rfl | h | rfl | h | h
  · refine Or.inr ?_
    split <;> decide
  · exact Or.inl (isAsciiDigit_of_mem_padded h)
  · exact Or.inr (by decide)
  · exact Or.inl (isAsciiDigit_of_mem_padded h)
  · split at h
    · cases h
    · simp only [List.mem_append, List.mem_cons, or_assoc] at h
      rcases h with rfl | h | h
      · exact Or.inr (by decide)
      · exact Or.inl (isAsciiDigit_of_mem_padded h)
      · refine (mem_fractionChars h).imp_right ?_
        rintro rfl
        decide

theorem mem_isoChars {separator : Char} {m : Moment} {c : Char} (h : c ∈ isoChars separator m) :
    c = separator ∨ isAsciiDigit c = true ∨ c ∈ isoMarks := by
  simp only [isoChars, List.mem_append, List.mem_cons, or_assoc] at h
  rcases h with h | h | h | h
  · refine Or.inr ((mem_dateChars h).imp_right ?_)
    rintro rfl
    decide
  · exact Or.inl h
  · refine Or.inr ((mem_clockChars h).imp_right ?_)
    rintro (rfl | rfl) <;> decide
  · cases hoffset : m.offset with
    | none =>
      rw [hoffset] at h
      cases h
    | some offset =>
      rw [hoffset] at h
      exact Or.inr (mem_offsetChars h)

theorem length_isoChars_le (separator : Char) (m : Moment) :
    (isoChars separator m).length ≤ 42 := by
  have hclock := length_clockChars_le m
  unfold isoChars
  cases m.offset with
  | none =>
    simp [length_dateChars]
    omega
  | some offset =>
    have hoffset := length_offsetChars_le offset
    simp [length_dateChars]
    omega

/-- A text that ends in a digit. -/
def EndsInDigit (cs : List Char) : Prop := ∃ c, cs.getLast? = some c ∧ isAsciiDigit c = true

namespace EndsInDigit

theorem padded (width n : Nat) : EndsInDigit (padded (width + 1) n) := by
  refine ⟨digitChar (n % 10), ?_, isAsciiDigit_digitChar n⟩
  rw [Number.padded, List.getLast?_concat]

theorem append {cs : List Char} (h : EndsInDigit cs) (before : List Char) :
    EndsInDigit (before ++ cs) := by
  obtain ⟨c, hc, hdigit⟩ := h
  exact ⟨c, by simp [List.getLast?_append, hc], hdigit⟩

theorem cons {cs : List Char} (h : EndsInDigit cs) (c : Char) : EndsInDigit (c :: cs) :=
  h.append [c]

theorem fraction {cs : List Char} (h : EndsInDigit cs) (micro : Nat) :
    EndsInDigit (cs ++ fractionChars micro) := by
  unfold fractionChars
  split
  · rwa [List.append_nil]
  · exact ((padded 5 micro).cons '.').append cs

theorem dateChars (d : Date) : EndsInDigit (dateChars d) := ((padded 1 d.day).cons '-').append _

theorem isoChars (separator : Char) (m : Moment) : EndsInDigit (isoChars separator m) := by
  have hclock : EndsInDigit (clockChars m) :=
    fraction (((padded 1 m.second).cons ':').append _) m.micro
  have hmoment : EndsInDigit (Moment.dateChars m.date ++ separator :: clockChars m) :=
    (hclock.cons separator).append _
  unfold Moment.isoChars
  cases m.offset with
  | none => rwa [List.append_nil]
  | some offset =>
    refine append ?_ _
    simp only [offsetChars]
    generalize (if offset < 0 then '-' else '+') = sign
    split
    · rw [List.append_nil]
      exact ((padded 1 _).cons ':').append _
    · exact (((padded 1 _).cons ':').fraction _).append _

end EndsInDigit

end Moment

/-! ### Days -/

/-- A day that is written with hyphens takes up ten characters. -/
theorem dayLength?_dateChars (d : Date) (rest : List Char) :
    dayLength? (Moment.dateChars d ++ rest) = some 10 := by
  obtain ⟨c, month, hmonth, hdigit⟩ := exists_head_padded 1 d.month
  have hhyphen : (Moment.dateChars d ++ rest)[4]? = some '-' := by
    simp [Moment.dateChars, length_padded]
  have hdigit' : (Moment.dateChars d ++ rest)[5]? ≠ some 'W' := by
    simpa [Moment.dateChars, List.getElem?_append, length_padded, hmonth] using
      ne_of_isAsciiDigit hdigit (by decide)
  have hlength : (Moment.dateChars d ++ rest).length = 10 + rest.length := by
    rw [List.length_append, Moment.length_dateChars]
  rw [dayLength?, if_neg (by omega), if_neg (by omega), if_pos hhyphen, if_neg hdigit']

theorem readDay?_dateChars {d : Date} (h : d.isValid = true) :
    readDay? (Moment.dateChars d) = some d := by
  have hbounds := Date.bounds_of_isValid h
  have hyear : d.year < 10 ^ 4 := by omega
  have hmonth : d.month < 10 ^ 2 := by omega
  have hday : d.day < 10 ^ 2 := by omega
  obtain ⟨c, month, hcons, hdigit⟩ := exists_head_padded 1 d.month
  have hne : c ≠ 'W' := ne_of_isAsciiDigit hdigit (by decide)
  have hyear' : takeDigits? 4 (Moment.dateChars d) =
      some (d.year, '-' :: (padded 2 d.month ++ '-' :: padded 2 d.day)) := by
    simp only [Moment.dateChars, List.append_assoc, List.cons_append, takeDigits?_padded hyear]
  have hmonth' : takeDigits? 2 (padded 2 d.month ++ '-' :: padded 2 d.day) =
      some (d.month, '-' :: padded 2 d.day) := takeDigits?_padded hmonth _
  have hday' : takeDigits? 2 (padded 2 d.day) = some (d.day, []) := by
    simpa using takeDigits?_padded hday []
  rw [hcons, List.cons_append] at hyear' hmonth'
  simp [readDay?, hyear', hne, hmonth', hday', takeHyphen?, h]

/-! ### Times of day -/

theorem readFraction?_padded {micro : Nat} (h : micro < ticksPerSecond) :
    readFraction? (padded 6 micro) = some ⟨[], micro, false⟩ := by
  have hlt : micro < 10 ^ 6 := h
  have htake := takeDigits?_padded hlt []
  rw [List.append_nil] at htake
  simp [readFraction?, length_padded, htake, hasMore, tenPow]

section Clock

variable {value : Nat} (h : value < 10 ^ 2)
include h

theorem readClock?_colon (left : Nat) {colons : Option Bool} (hcolons : colons.getD true = true)
    {more : List Char} (hmore : more ≠ []) :
    readClock? (left + 1) colons (padded 2 value ++ ':' :: more) =
      (readClock? left (some true) more).map fun r => { r with fields := value :: r.fields } := by
  obtain ⟨c, rest, rfl⟩ := List.exists_cons_of_ne_nil hmore
  simp [readClock?, takeDigits?_padded h, hcolons]

theorem readClock?_two (left : Nat) (colons : Option Bool) :
    readClock? (left + 1) colons (padded 2 value) = some ⟨[value], 0, false⟩ := by
  have htake := takeDigits?_padded h []
  rw [List.append_nil] at htake
  simp [readClock?, htake]

/-- The last field of two digits may be followed by a fraction. -/
theorem readClock?_fraction {micro : Nat} (hmicro : micro < ticksPerSecond) (left : Nat)
    (colons : Option Bool) :
    readClock? (left + 1) colons (padded 2 value ++ Moment.fractionChars micro) =
      some ⟨[value], micro, false⟩ := by
  unfold Moment.fractionChars
  split
  · next hzero =>
    rw [List.append_nil, readClock?_two h, hzero]
  · obtain ⟨c, rest, hcons, -⟩ := exists_head_padded 5 micro
    have hread := readFraction?_padded hmicro
    rw [hcons] at hread ⊢
    simp [readClock?, takeDigits?_padded h, hread]

end Clock

theorem append_padded_ne_nil (width n : Nat) (rest : List Char) :
    padded (width + 1) n ++ rest ≠ [] := by
  obtain ⟨c, more, hcons, -⟩ := exists_head_padded width n
  simp [hcons]

namespace Moment

theorem fields_lt {m : Moment} (h : m.isValid = true) :
    m.hour < 10 ^ 2 ∧ m.minute < 10 ^ 2 ∧ m.second < 10 ^ 2 ∧ m.micro < ticksPerSecond := by
  simp only [isValid, Bool.and_eq_true, decide_eq_true_eq] at h
  omega

theorem readClock?_clockChars {m : Moment} (h : m.isValid = true) :
    readClock? 3 none (clockChars m) = some ⟨[m.hour, m.minute, m.second], m.micro, false⟩ := by
  obtain ⟨hhour, hminute, hsecond, hmicro⟩ := fields_lt h
  simp only [clockChars, List.append_assoc, List.cons_append]
  rw [readClock?_colon hhour 2 rfl (append_padded_ne_nil 1 _ _),
    readClock?_colon hminute 1 rfl (append_padded_ne_nil 1 _ _),
    readClock?_fraction hsecond hmicro]
  rfl

/-! ### Offsets -/

/-- An offset is read as far as it is written: seconds that are missing are none. -/
theorem readClock?_offset {t : Nat} (h : t < ticksPerDay) :
    ∃ fields, readClock? 3 none ((offsetChars t).drop 1) =
        some ⟨fields, t % ticksPerSecond, false⟩ ∧
      fields[0]?.getD 0 * 3600 + fields[1]?.getD 0 * 60 + fields[2]?.getD 0 =
        t / ticksPerSecond := by
  have hhour : t / ticksPerSecond / 3600 < 10 ^ 2 := by
    unfold ticksPerDay ticksPerSecond at *
    omega
  have hminute : t / ticksPerSecond / 60 % 60 < 10 ^ 2 := by omega
  have hsecond : t / ticksPerSecond % 60 < 10 ^ 2 := by omega
  have hmicro : t % ticksPerSecond < ticksPerSecond := Nat.mod_lt _ (by decide)
  simp only [offsetChars, Int.natAbs_natCast, List.cons_append, List.drop_succ_cons, List.drop_zero,
    List.append_assoc]
  rw [readClock?_colon hhour 2 rfl (append_padded_ne_nil 1 _ _)]
  -- seconds are written where they or the microseconds are not zero
  split
  · next hzero =>
    rw [List.append_nil, readClock?_two hminute]
    refine ⟨[t / ticksPerSecond / 3600, t / ticksPerSecond / 60 % 60], ?_, ?_⟩
    · rw [hzero.2]
      rfl
    · simp
      omega
  · rw [readClock?_colon hminute 1 rfl (append_padded_ne_nil 1 _ _),
      readClock?_fraction hsecond hmicro]
    refine ⟨[t / ticksPerSecond / 3600, t / ticksPerSecond / 60 % 60, t / ticksPerSecond % 60],
      rfl, ?_⟩
    simp
    omega

theorem offsetChars_eq (offset : Int) : offsetChars offset =
    (if offset < 0 then '-' else '+') :: (offsetChars offset.natAbs).drop 1 := by
  simp only [offsetChars, Int.natAbs_natCast, List.cons_append, List.drop_succ_cons, List.drop_zero]

theorem readOffset?_sign {sign : Char} (hsign : sign ≠ 'Z') {rest : List Char} {fields : List Nat}
    {micro t : Nat} (hclock : readClock? 3 none rest = some ⟨fields, micro, false⟩)
    (ht : (fields[0]?.getD 0 * 3600 + fields[1]?.getD 0 * 60 + fields[2]?.getD 0) * ticksPerSecond +
      micro = t) :
    readOffset? (sign :: rest) = some (some (if sign = '-' then -(t : Int) else t)) := by
  unfold readOffset?
  split
  · next heq => cases heq
  · next heq => exact absurd (List.cons.inj heq).1 hsign
  · next heq =>
    obtain ⟨rfl, rfl⟩ := List.cons.inj heq
    simp only [hclock, ht]

theorem readOffset?_offsetChars {offset : Int} (h : isOffset offset = true) :
    readOffset? (offsetChars offset) = some (some offset) := by
  have hlt : offset.natAbs < ticksPerDay := by simpa [isOffset] using h
  obtain ⟨fields, hclock, hseconds⟩ := readClock?_offset hlt
  have ht : (fields[0]?.getD 0 * 3600 + fields[1]?.getD 0 * 60 + fields[2]?.getD 0) *
      ticksPerSecond + offset.natAbs % ticksPerSecond = offset.natAbs := by
    rw [hseconds]
    exact Nat.div_add_mod' _ _
  rw [offsetChars_eq]
  by_cases hneg : offset < 0
  · rw [if_pos hneg, readOffset?_sign (by decide) hclock ht, if_pos rfl]
    congr 2
    omega
  · rw [if_neg hneg, readOffset?_sign (by decide) hclock ht, if_neg (by decide)]
    congr 2
    omega

/-! ### Moments -/

/-- What stands between day and offset is not taken for the beginning of an offset. -/
theorem not_beginsOffset_of_mem_clockChars {m : Moment} {c : Char} (h : c ∈ clockChars m) :
    beginsOffset c = false := by
  rcases mem_clockChars h with hdigit | rfl | rfl
  · simp [beginsOffset, ne_of_isAsciiDigit hdigit (m := '+') rfl,
      ne_of_isAsciiDigit hdigit (m := '-') rfl, ne_of_isAsciiDigit hdigit (m := 'Z') rfl]
  · rfl
  · rfl

/-- The characters of the offset, if there is one. -/
def zoneChars (m : Moment) : List Char :=
  match m.offset with
  | none => []
  | some o => offsetChars o

theorem beginsOffset_head?_zoneChars (m : Moment) : (zoneChars m).head?.all beginsOffset = true := by
  cases hm : m.offset with
  | none => simp [zoneChars, hm]
  | some offset =>
    have hsign : beginsOffset (if offset < 0 then '-' else '+') = true := by split <;> rfl
    have hzone : zoneChars m =
        (if offset < 0 then '-' else '+') :: (offsetChars offset.natAbs).drop 1 := by
      rw [← offsetChars_eq, zoneChars, hm]
    simp [hzone, hsign]

theorem readOffset?_zoneChars {m : Moment} (h : m.isValid = true) :
    readOffset? (zoneChars m) = some m.offset := by
  have hoffset : m.offset.all isOffset = true := by
    simp only [isValid, Bool.and_eq_true] at h
    exact h.2
  unfold zoneChars
  cases hm : m.offset with
  | none => rfl
  | some offset =>
    rw [hm] at hoffset
    exact readOffset?_offsetChars hoffset

end Moment

/-- A day, a time of day and an offset are read each by its reader. -/
theorem readIso?_of_clock {m : Moment} (h : m.isValid = true) (separator : Char)
    {clock zone : List Char} {fields : List Nat} (hplain : ∀ c ∈ clock, beginsOffset c = false)
    (hzone : zone.head?.all beginsOffset = true)
    (hclock : readClock? 3 none clock = some ⟨fields, m.micro, false⟩)
    (hfields : fields[0]?.getD 0 = m.hour ∧ fields[1]?.getD 0 = m.minute ∧
      fields[2]?.getD 0 = m.second)
    (hoffset : readOffset? zone = some m.offset) :
    readIso? (Moment.dateChars m.date ++ separator :: (clock ++ zone)) = some m := by
  have hdate : m.date.isValid = true := ((Moment.isValid_iff m).mp h).1
  have hplain' : ∀ c ∈ clock, (!beginsOffset c) = true := by
    intro c hc
    rw [hplain c hc]
    rfl
  -- the reader cuts at the first character that may begin an offset, and none in `clock` does
  have hsplit : ((clock ++ zone).takeWhile fun c => !beginsOffset c) = clock ∧
      ((clock ++ zone).dropWhile fun c => !beginsOffset c) = zone := by
    rw [List.takeWhile_append_of_pos hplain', List.dropWhile_append_of_pos hplain']
    cases zone with
    | nil => simp
    | cons c rest =>
      have hc : beginsOffset c = true := by simpa using hzone
      simp [hc]
  have hlength : (Moment.dateChars m.date).length = 10 := Moment.length_dateChars m.date
  have hlonger : ¬ (Moment.dateChars m.date ++ separator :: (clock ++ zone)).length ≤ 10 := by
    rw [List.length_append, hlength, List.length_cons]
    omega
  have htake : ∀ rest, (Moment.dateChars m.date ++ rest).take 10 = Moment.dateChars m.date :=
    fun rest => List.take_left' hlength
  have hdrop : (Moment.dateChars m.date ++ separator :: (clock ++ zone)).drop 11 = clock ++ zone := by
    rw [List.drop_append, hlength, List.drop_eq_nil_of_le (by omega)]
    rfl
  simp only [readIso?, dayLength?_dateChars, Option.bind_eq_bind, Option.bind_some, htake,
    readDay?_dateChars hdate, hlonger, if_false, hdrop, hsplit.1, hsplit.2, hclock, Bool.and_false,
    Bool.false_eq_true, hoffset, hfields.1, hfields.2.1, hfields.2.2]
  exact if_pos h

/-- **A moment is read back**, whatever character stands between day and time of day. -/
theorem readIso?_isoChars {m : Moment} (h : m.isValid = true) (separator : Char) :
    readIso? (m.isoChars separator) = some m := by
  have hchars : m.isoChars separator =
      Moment.dateChars m.date ++ separator :: (m.clockChars ++ m.zoneChars) := by
    unfold Moment.isoChars Moment.zoneChars
    cases m.offset <;> simp
  rw [hchars]
  exact readIso?_of_clock h separator (fun c hc => Moment.not_beginsOffset_of_mem_clockChars hc)
    m.beginsOffset_head?_zoneChars (Moment.readClock?_clockChars h) ⟨rfl, rfl, rfl⟩
    (Moment.readOffset?_zoneChars h)

/-- The seconds may be missing. -/
theorem readIso?_minutes {d : Date} {hour minute : Nat}
    (h : (Moment.mk d hour minute 0 0 none).isValid = true) (separator : Char) :
    readIso? (Moment.dateChars d ++ separator :: (padded 2 hour ++ ':' :: padded 2 minute)) =
      some ⟨d, hour, minute, 0, 0, none⟩ := by
  obtain ⟨hhour, hminute, -, -⟩ := Moment.fields_lt h
  have hplain : ∀ c ∈ padded 2 hour ++ ':' :: padded 2 minute, beginsOffset c = false := by
    intro c hc
    have hclock : c ∈ Moment.clockChars ⟨d, hour, minute, 0, 0, none⟩ := by
      simp only [Moment.clockChars, List.mem_append, List.mem_cons] at hc ⊢
      exact Or.inl (Or.inl hc)
    exact Moment.not_beginsOffset_of_mem_clockChars hclock
  have hclock : readClock? 3 none (padded 2 hour ++ ':' :: padded 2 minute) =
      some ⟨[hour, minute], 0, false⟩ := by
    have hne : padded 2 minute ≠ [] := by simpa using append_padded_ne_nil 1 minute []
    rw [readClock?_colon hhour 2 rfl hne, readClock?_two hminute]
    rfl
  have hread : readIso? (Moment.dateChars d ++
      separator :: ((padded 2 hour ++ ':' :: padded 2 minute) ++ [])) = _ :=
    readIso?_of_clock h separator hplain rfl hclock ⟨rfl, rfl, rfl⟩ rfl
  rwa [List.append_nil] at hread

/-- A day alone is read as the midnight at its beginning. -/
theorem readIso?_dateChars {d : Date} (h : d.isValid = true) :
    readIso? (Moment.dateChars d) = some (.midnight d) := by
  have hlength : (Moment.dateChars d).length = 10 := Moment.length_dateChars d
  have hday := dayLength?_dateChars d []
  rw [List.append_nil] at hday
  have htake : (Moment.dateChars d).take 10 = Moment.dateChars d :=
    List.take_of_length_le (Nat.le_of_eq hlength)
  simp [readIso?, hday, htake, readDay?_dateChars h, hlength]

/-! ### Texts in other notations -/

theorem le_dayLength? {cs : List Char} {n : Nat} (h : dayLength? cs = some n) : 7 ≤ n := by
  simp only [dayLength?] at h
  split_ifs at h <;> cases h <;> omega

/-- There is no moment without a day at the beginning. -/
theorem readIso?_eq_none {cs : List Char} (h : ∀ n, 7 ≤ n → readDay? (cs.take n) = none) :
    readIso? cs = none := by
  unfold readIso?
  cases hlength : dayLength? cs with
  | none => rfl
  | some n => simp [h n (le_dayLength? hlength)]

theorem readIso?_of_third {a b c : Char} (hc : isAsciiDigit c = false) (cs : List Char) :
    readIso? (a :: b :: c :: cs) = none := by
  apply readIso?_eq_none
  intro n hn
  obtain ⟨k, rfl⟩ : ∃ k, n = k + 1 + 1 + 1 := ⟨n - 3, by omega⟩
  simp [readDay?, takeDigits?, hc]

theorem readIso?_of_slash {year : Nat} (hyear : year ≤ 9999) (cs : List Char) :
    readIso? (padded 4 year ++ '/' :: cs) = none := by
  apply readIso?_eq_none
  intro n hn
  obtain ⟨k, rfl⟩ : ∃ k, n = 4 + (k + 1) := ⟨n - 5, by omega⟩
  have htake : (padded 4 year ++ '/' :: cs).take (4 + (k + 1)) = padded 4 year ++ '/' :: cs.take k := by
    rw [List.take_append, length_padded, List.take_of_length_le (by rw [length_padded]; omega)]
    simp
  have hyear' : takeDigits? 4 (padded 4 year ++ '/' :: cs.take k) = some (year, '/' :: cs.take k) :=
    takeDigits?_padded (by omega) _
  have hmonth : takeDigits? 2 ('/' :: cs.take k) = none := by
    simp [takeDigits?, isAsciiDigit]
  rw [htake]
  simp [readDay?, hyear', hmonth]

end PayloadCheck.Time
