import PayloadCheck.Proofs.Check.Dates
import PayloadCheck.Proofs.Time.Notations

/-!
# No notation of dates hides another

A moment that is written in one of the notations of dates is read back as far as the notation shows
it, although the standard notation and all notations before it are tried first: each of these gives
up, or reads the same day (`notations_are_read_back`).
-/

namespace PayloadCheck.Check

open PayloadCheck.Number PayloadCheck.Text PayloadCheck.Time

/-! ### The formats -/

/-- Three fields with a character between them. -/
def numeric (a b c : Directive) (separator : Char) : Format :=
  [.field a, .literal separator, .field b, .literal separator, .field c]

/-- Three fields with blanks between them. -/
def spaced (a b c : Directive) : Format := [.field a, .blanks, .field b, .blanks, .field c]

/-- A name of the month, the day with a comma, and the year. -/
def titled (name : Directive) : Format :=
  [.field name, .blanks, .field .day, .literal ',', .blanks, .field .year]

/-- Hour and minute behind a blank. -/
def minutes : Format := [.blanks, .field .hour, .literal ':', .field .minute]

/-- Hour, minute and second behind a blank. -/
def seconds : Format := minutes ++ [.literal ':', .field .second]

/-- The formats of the notations. -/
def formats : List Format :=
  [numeric .year .month .day '-' ++ seconds, numeric .year .month .day '-' ++ minutes,
   numeric .year .month .day '/', numeric .year .month .day '/' ++ seconds,
   numeric .month .day .year '/', numeric .month .day .year '/' ++ seconds,
   numeric .day .month .year '-', numeric .day .month .year '.',
   spaced .day .monthName .year, spaced .day .monthShort .year,
   spaced .monthName .day .year, titled .monthName, titled .monthShort]

theorem dateFormats_eq : dateFormats = formats := by
  decide

theorem notedDate_of_told {cs : List Char} (hiso : readIso? cs = none) {k : Nat} {f : Format}
    (hf : formats[k]? = some f) (hbefore : ∀ g ∈ formats.take k, g.told cs = none)
    {m : Moment} (hm : f.told cs = some m) : notedDate cs = .ok (some m) := by
  have hrepeated : ∀ g ∈ formats, (Format.repeated? [] 1 0 g).isNone = true := by
    decide
  have hread : ∀ g ∈ formats, ((g.read (String.ofList cs)).toOption).join = g.told cs :=
    fun g hg => Format.read_ofList (Option.isNone_iff_eq_none.mp (hrepeated g hg)) cs
  have hsplit : formats = formats.take k ++ f :: formats.drop (k + 1) := by
    obtain ⟨hk, hget⟩ := List.getElem?_eq_some_iff.mp hf
    rw [← hget, ← List.drop_eq_getElem_cons hk, List.take_append_drop]
  have hnone : (formats.take k).findSome?
      (fun g => ((g.read (String.ofList cs)).toOption).join) = none := by
    rw [List.findSome?_eq_none_iff]
    intro g hg
    rw [hread g (List.mem_of_mem_take hg), hbefore g hg]
  have hfirst : formats.findSome? (fun g => ((g.read (String.ofList cs)).toOption).join) =
      some m := by
    rw [hsplit, List.findSome?_append, hnone, List.findSome?_cons, hread f (List.mem_of_getElem? hf),
      hm]
    rfl
  rw [notedDate, hiso, dateFormats_eq]
  exact congrArg Except.ok hfirst

/-! ### Texts that begin with something else than a year -/

/-- What stands between the fields of a format. -/
def separators : List Item := [.literal '/', .literal '-', .literal '.', .blanks]

/-- Marks that have no other case refuse what is none of them. -/
theorem refuses_literals {marks : List Char} (hmarks : marks.any hasCaseForms = false) {c : Char}
    (hc : c ∉ marks) : ∀ item ∈ marks.map Item.literal, item.Refuses c := by
  intro item hitem
  obtain ⟨m, hm, rfl⟩ := List.mem_map.mp hitem
  have hne : c ≠ m := by
    rintro rfl
    exact hc hm
  exact refuses_literal (by simpa using List.any_eq_false.mp hmarks m hm) hne

theorem refuses_separators {c : Char} (hc : c ∉ ['/', '-', '.']) (hblank : isBlank c = false) :
    ∀ item ∈ separators, item.Refuses c := by
  intro item hitem
  have hitem : item ∈ ['/', '-', '.'].map Item.literal ++ [.blanks] := hitem
  rcases List.mem_append.mp hitem with hitem | hitem
  · exact refuses_literals (by decide) hc item hitem
  · rw [List.mem_singleton.mp hitem]
    exact refuses_blanks hblank

theorem refuses_of_isAsciiDigit {c : Char} (h : isAsciiDigit c = true) :
    ∀ item ∈ separators, item.Refuses c := by
  have hmarks : c ∉ ['/', '-', '.'] := by
    simp [ne_of_isAsciiDigit h (m := '/') rfl, ne_of_isAsciiDigit h (m := '-') rfl,
      ne_of_isAsciiDigit h (m := '.') rfl]
  exact refuses_separators hmarks (isBlank_of_isAsciiDigit h)

theorem of_isAsciiLetter {c : Char} (h : isAsciiLetter c = true) :
    isAsciiDigit c = false ∧ isDecimal c = false ∧ isBlank c = false := by
  have hrange : (65 ≤ c.toNat ∧ c.toNat ≤ 90) ∨ (97 ≤ c.toNat ∧ c.toNat ≤ 122) := by
    simpa [isAsciiLetter] using h
  have hdigit : isAsciiDigit c = false := by
    simp only [isAsciiDigit, Bool.and_eq_false_iff, decide_eq_false_iff_not]
    omega
  have hascii : c.toNat < 128 := by omega
  refine ⟨hdigit, ?_, ?_⟩
  · simp [isDecimal, decimalValue?, hascii, hdigit]
  · simp only [isBlank, Bool.or_eq_false_iff, Bool.and_eq_false_iff, beq_eq_false_iff_ne,
      decide_eq_false_iff_not]
    omega

theorem refuses_of_isAsciiLetter {c : Char} (h : isAsciiLetter c = true) :
    ∀ item ∈ separators, item.Refuses c := by
  have hmarks : c ∉ ['/', '-', '.'] := by
    intro hc
    have hletter : ['/', '-', '.'].any isAsciiLetter = false := by decide
    exact List.any_eq_false.mp hletter c hc h
  exact refuses_separators hmarks (of_isAsciiLetter h).2.2

/-- Formats that begin with a year, or with a month or a day by number and one of some items behind
it. -/
def opensWith (items : List Item) : Format → Bool
  | .field .year :: _ => true
  | .field d :: item :: _ => (d == .month || d == .day) && items.contains item
  | _ => false

/-- Such a format gives up where its items refuse both the second and the third character of a text,
and this one is no digit. -/
theorem told_of_opensWith {items : List Item} {g : Format} (hg : opensWith items g = true) {a b c : Char}
    (hb : ∀ item ∈ items, item.Refuses b) (hc : ∀ item ∈ items, item.Refuses c)
    (hdecimal : isDecimal c = false) (cs : List Char) : g.told (a :: b :: c :: cs) = none := by
  apply Format.told_of_capture?
  unfold opensWith at hg
  split at hg
  · exact Format.capture?_year_eq_none hdecimal
  · next d item f _ =>
    simp only [Bool.and_eq_true, Bool.or_eq_true, beq_iff_eq, List.contains_iff_mem] at hg
    obtain ⟨hd, hitem⟩ := hg
    refine Format.capture?_of_short ?_ (Format.capture?_of_refuses (hb item hitem))
      (Format.capture?_of_refuses (hc item hitem))
    rcases hd with rfl | rfl <;> decide
  · cases hg

theorem forall_take_succ {k : Nat} {f : Format} (hf : formats[k]? = some f) {p : Format → Prop}
    (hbefore : ∀ g ∈ formats.take k, p g) (h : p f) : ∀ g ∈ formats.take (k + 1), p g := by
  intro g hg
  rw [List.take_add_one, hf, List.mem_append] at hg
  rcases hg with hg | hg
  · exact hbefore g hg
  · rw [List.mem_singleton.mp hg]
    exact h

/-- Formats with hyphens give up at a slash behind the year. -/
theorem told_of_slash (year : Nat) : ∀ g ∈ formats.take 2, ∀ cs,
    g.told (padded 4 year ++ '/' :: cs) = none := by
  intro g hg cs
  apply Format.told_of_capture?
  have hslash : (Item.literal '-').Refuses '/' := refuses_literal (by decide) (by decide)
  rcases List.mem_cons.mp hg with rfl | hg
  · exact Format.capture?_year_of_refuses _ hslash
  · rw [List.mem_singleton.mp hg]
    exact Format.capture?_year_of_refuses _ hslash

/-- Behind a day by number a format gives up where another separator stands than its own. -/
theorem told_of_day {items : List Item} (hitems : ∀ item ∈ items, item ∈ separators) {c : Char}
    (hc : ∀ item ∈ items, item.Refuses c) (hdecimal : isDecimal c = false) {g : Format}
    (hg : opensWith items g = true) (day : Nat) (cs : List Char) :
    g.told (padded 2 day ++ c :: cs) = none := by
  have hdigit : isAsciiDigit (digitChar (day % 10)) = true := isAsciiDigit_digitChar day
  exact told_of_opensWith hg (fun item hitem => refuses_of_isAsciiDigit hdigit item (hitems item hitem))
    hc hdecimal cs

/-- Formats of numbers give up at a blank behind the day. -/
theorem told_of_blank : ∀ g ∈ formats.take 8, ∀ day cs, g.told (padded 2 day ++ ' ' :: cs) = none := by
  have hopens : ∀ g ∈ formats.take 8, opensWith (['/', '-', '.'].map Item.literal) g = true := by
    decide
  intro g hg
  exact told_of_day (by decide) (refuses_literals (by decide) (by simp)) (by decide) (hopens g hg)

/-- All formats that begin with a number, and the standard notation, give up at the name of a month,
written in full or short. -/
theorem told_of_monthTitle {month : Nat} (hmonth : 1 ≤ month ∧ month ≤ 12) (cs : List Char) :
    (readIso? (monthTitle month ++ cs) = none ∧
      ∀ g ∈ formats.take 10, g.told (monthTitle month ++ cs) = none) ∧
    readIso? ((monthTitle month).take 3 ++ cs) = none ∧
      ∀ g ∈ formats.take 10, g.told ((monthTitle month).take 3 ++ cs) = none := by
  have hopens : ∀ g ∈ formats.take 10, opensWith separators g = true := by decide
  have hletters : ∀ month < 13, 0 < month → ((monthTitle month)[1]?).any isAsciiLetter = true ∧
      ((monthTitle month)[2]?).any isAsciiLetter = true := by
    decide +kernel
  obtain ⟨hb, hc⟩ := hletters month (Nat.lt_succ_of_le hmonth.2) hmonth.1
  -- behind the first letter there are two more, in the full name as in the short one
  rcases htitle : monthTitle month with _ | ⟨a, _ | ⟨b, _ | ⟨c, more⟩⟩⟩
  · simp [htitle] at hb
  · simp [htitle] at hb
  · simp [htitle] at hc
  · have hb : isAsciiLetter b = true := by simpa [htitle] using hb
    have hc : isAsciiLetter c = true := by simpa [htitle] using hc
    obtain ⟨hdigit, hdecimal, -⟩ := of_isAsciiLetter hc
    have htold : ∀ g ∈ formats.take 10, ∀ cs, g.told (a :: b :: c :: cs) = none :=
      fun g hg => told_of_opensWith (hopens g hg) (refuses_of_isAsciiLetter hb)
        (refuses_of_isAsciiLetter hc) hdecimal
    exact ⟨⟨readIso?_of_third hdigit _, fun g hg => htold g hg _⟩, readIso?_of_third hdigit _,
      fun g hg => htold g hg _⟩

/-- The short name of a month other than May is not taken for a name in full. -/
theorem capture?_monthName_of_short {month : Nat} (hmonth : 1 ≤ month ∧ month ≤ 12) (hmay : month ≠ 5)
    (f : Format) (cs : List Char) : Format.capture? (.field .monthName :: f)
      ((monthTitle month).take 3 ++ ' ' :: cs) = none := by
  have hnone : ∀ month < 13, 0 < month → month ≠ 5 → ∀ other ∈ monthNames,
      Directive.fits ((Directive.spelled other).take ((monthTitle month).take 3 ++ [' ']).length)
        ((monthTitle month).take 3 ++ [' ']) = false := by
    decide +kernel
  have hcandidates : (Item.field .monthName).candidates
      (((monthTitle month).take 3 ++ [' ']) ++ cs) = [] :=
    Item.candidates_none (d := .monthName) rfl (hnone month (Nat.lt_succ_of_le hmonth.2) hmonth.1 hmay) cs
  rw [List.append_assoc] at hcandidates
  apply Format.capture?_eq_none
  rw [show (monthTitle month).take 3 ++ ' ' :: cs = (monthTitle month).take 3 ++ ([' '] ++ cs) from rfl,
    hcandidates]
  exact nofun

/-! ### Filled formats among the notations -/

/-- Whether a format begins with a field and ends in one that is shown as a number. -/
def isBounded (f : Format) : Bool :=
  (match f.head? with
    | some (.field _) => true
    | _ => false) &&
  (match f.getLast? with
    | some (.field d) => [Directive.year, .day, .minute, .second].contains d
    | _ => false)

section

variable {m : Moment} (h : m.isValid = true)
include h

theorem isNoted_filled {f : Format} (hf : f.isPlain = true) (hbounded : isBounded f = true) :
    IsNoted (f.filled m) := by
  obtain ⟨hfirst, hlast⟩ := Bool.and_eq_true_iff.mp hbounded
  have hdigit : Moment.EndsInDigit (f.filled m) := by
    split at hlast
    · next d hd =>
      have hshown : Moment.EndsInDigit (m.shown d.letter) := by
        simp only [List.contains_cons, List.contains_nil, Bool.or_false, Bool.or_eq_true, beq_iff_eq]
          at hlast
        rcases hlast with rfl | rfl | rfl | rfl
        · exact .padded 3 m.date.year
        · exact .padded 1 m.date.day
        · exact .padded 1 m.minute
        · exact .padded 1 m.second
      obtain ⟨before, rfl⟩ := List.getLast?_eq_some_iff.mp hd
      simp only [Format.filled, List.flatMap_append, List.flatMap_singleton, Item.filled]
      exact hshown.append _
    · cases hlast
  obtain ⟨c, hc, hdigit⟩ := hdigit
  refine ⟨⟨c, List.mem_of_getLast? hc, hdigit⟩, ?_, ?_⟩
  · intro d hd
    split at hfirst
    · next e he =>
      obtain ⟨rest, rfl⟩ := List.head?_eq_some_iff.mp he
      have hshown := head?_shown h (mem_shownDirectives hf (List.mem_cons_self ..))
        (Format.filled rest m)
      have hfilled : Format.filled (.field e :: rest) m = m.shown e.letter ++ Format.filled rest m :=
        rfl
      rw [← hfilled, hd] at hshown
      simpa using hshown
    · cases hfirst
  · intro d hd
    rw [hc] at hd
    cases hd
    exact isBlank_of_isAsciiDigit hdigit

/-- A text that is filled into a format is read by it, as far as the format shows the moment, if all
readers that are tried before give up. -/
theorem notedDate_filled {k : Nat} {f : Format} {form : List Char} (hf : formats[k]? = some f)
    (hplain : f.isPlain = true)
    (hfields : f.directives.foldl m.tell {} =
      { year := some m.date.year, month := m.date.month, day := m.date.day
        hour := (m.keptBy form).hour, minute := (m.keptBy form).minute
        second := (m.keptBy form).second })
    (hiso : readIso? (f.filled m) = none)
    (hbefore : ∀ g ∈ formats.take k, g.told (f.filled m) = none) :
    notedDate (f.filled m) = .ok (some (m.keptBy form)) := by
  apply notedDate_of_told hiso hf hbefore
  rw [told_filled h hplain]
  exact moment?_eq (Moment.isValid_keptBy h form) hfields

/-! ### The notations one by one -/

theorem noted_hyphens_seconds :
    notedDate ((numeric .year .month .day '-' ++ seconds).filled m) =
      .ok (some (m.keptBy "%Y-%m-%d %H:%M:%S".toList)) := by
  have hchars : (numeric .year .month .day '-' ++ seconds).filled m =
      (m.keptBy "%Y-%m-%d %H:%M:%S".toList).isoChars ' ' := by
    simp [numeric, seconds, minutes, Format.filled, Item.filled, Moment.shown, Directive.letter,
      Moment.isoChars, Moment.dateChars, Moment.clockChars, Moment.fractionChars, Moment.keptBy,
      mentions]
  rw [hchars, notedDate, readIso?_isoChars (Moment.isValid_keptBy h _)]
  rfl

theorem noted_hyphens_minutes :
    notedDate ((numeric .year .month .day '-' ++ minutes).filled m) =
      .ok (some (m.keptBy "%Y-%m-%d %H:%M".toList)) := by
  have hchars : (numeric .year .month .day '-' ++ minutes).filled m =
      Moment.dateChars m.date ++ ' ' :: (padded 2 m.hour ++ ':' :: padded 2 m.minute) := by
    simp [numeric, minutes, Format.filled, Item.filled, Moment.shown, Directive.letter,
      Moment.dateChars]
  have hvalid : (Moment.mk m.date m.hour m.minute 0 0 none).isValid = true :=
    Moment.isValid_keptBy h "%Y-%m-%d %H:%M".toList
  rw [hchars, notedDate, readIso?_minutes hvalid]
  rfl

/-- A format alone does not read a text in which a time of day follows. -/
theorem told_of_seconds {f : Format} (hf : f.isPlain = true) :
    f.told (Format.filled (f ++ seconds) m) = none := by
  have hfilled : Format.filled (f ++ seconds) m = f.filled m ++ ' ' :: Format.filled seconds.tail m := by
    rw [Format.filled, List.flatMap_append]
    rfl
  rw [hfilled]
  exact told_filled_append h hf _ _

theorem noted_slashes : notedDate ((numeric .year .month .day '/').filled m) =
    .ok (some (m.keptBy "%Y/%m/%d".toList)) := by
  refine notedDate_filled h (k := 2) rfl rfl rfl ?iso ?before
  case iso => exact readIso?_of_slash (fields_bounds h).1.1 _
  case before => exact fun g hg => told_of_slash _ g hg _

theorem noted_slashes_seconds : notedDate ((numeric .year .month .day '/' ++ seconds).filled m) =
    .ok (some (m.keptBy "%Y/%m/%d %H:%M:%S".toList)) := by
  refine notedDate_filled h (k := 3) rfl rfl rfl ?iso ?before
  case iso => exact readIso?_of_slash (fields_bounds h).1.1 _
  case before => exact forall_take_succ rfl (fun g hg => told_of_slash _ g hg _) (told_of_seconds h rfl)

omit h in
/-- All formats that begin with a year give up at a slash in the third place. -/
theorem told_of_third : ∀ g ∈ formats.take 4, ∀ month cs,
    g.told (padded 2 month ++ '/' :: cs) = none := by
  have hopens : ∀ g ∈ formats.take 4, opensWith [] g = true := by decide
  intro g hg month cs
  exact told_of_opensWith (hopens g hg) nofun nofun (by decide) cs

theorem noted_month_first : notedDate ((numeric .month .day .year '/').filled m) =
    .ok (some (m.keptBy "%m/%d/%Y".toList)) := by
  refine notedDate_filled h (k := 4) rfl rfl rfl ?iso ?before
  case iso => exact readIso?_of_third (by decide) _
  case before => exact fun g hg => told_of_third g hg _ _

theorem noted_month_first_seconds : notedDate ((numeric .month .day .year '/' ++ seconds).filled m) =
    .ok (some (m.keptBy "%m/%d/%Y %H:%M:%S".toList)) := by
  refine notedDate_filled h (k := 5) rfl rfl rfl ?iso ?before
  case iso => exact readIso?_of_third (by decide) _
  case before => exact forall_take_succ rfl (fun g hg => told_of_third g hg _ _) (told_of_seconds h rfl)

theorem noted_hyphens : notedDate ((numeric .day .month .year '-').filled m) =
    .ok (some (m.keptBy "%d-%m-%Y".toList)) := by
  refine notedDate_filled h (k := 6) rfl rfl rfl ?iso ?before
  case iso => exact readIso?_of_third (by decide) _
  case before =>
    have hopens : ∀ g ∈ formats.take 6, opensWith (['/'].map Item.literal) g = true := by decide
    intro g hg
    exact told_of_day (by decide) (refuses_literals (by decide) (by simp)) (by decide) (hopens g hg)
      _ _

theorem noted_points : notedDate ((numeric .day .month .year '.').filled m) =
    .ok (some (m.keptBy "%d.%m.%Y".toList)) := by
  refine notedDate_filled h (k := 7) rfl rfl rfl ?iso ?before
  case iso => exact readIso?_of_third (by decide) _
  case before =>
    have hopens : ∀ g ∈ formats.take 7, opensWith (['/', '-'].map Item.literal) g = true := by decide
    intro g hg
    exact told_of_day (by decide) (refuses_literals (by decide) (by simp)) (by decide) (hopens g hg)
      _ _

theorem noted_day_name : notedDate ((spaced .day .monthName .year).filled m) =
    .ok (some (m.keptBy "%d %B %Y".toList)) := by
  refine notedDate_filled h (k := 8) rfl rfl rfl ?iso ?before
  case iso => exact readIso?_of_third (by decide) _
  case before => exact fun g hg => told_of_blank g hg _ _

omit h in
/-- May is its own short name. -/
theorem filled_may (hmay : m.date.month = 5) :
    Item.filled m (.field .monthShort) = Item.filled m (.field .monthName) := by
  have htitle : (monthTitle 5).take 3 = monthTitle 5 := by decide
  simp only [Item.filled, Directive.letter, Moment.shown, hmay, htitle]

/-- Before a short name the format of full names is tried, which reads May as it should. -/
theorem noted_day_short : notedDate ((spaced .day .monthShort .year).filled m) =
    .ok (some (m.keptBy "%d %b %Y".toList)) := by
  have hmonth := month_bounds h
  by_cases hmay : m.date.month = 5
  · have hsame : (spaced .day .monthShort .year).filled m = (spaced .day .monthName .year).filled m := by
      simp only [Format.filled, spaced, List.flatMap_cons, filled_may hmay]
    have hshort : m.keptBy "%d %b %Y".toList = .midnight m.date := rfl
    have hfull : m.keptBy "%d %B %Y".toList = .midnight m.date := rfl
    rw [hsame, hshort, ← hfull]
    exact noted_day_name h
  · refine notedDate_filled h (k := 9) rfl rfl rfl ?iso ?before
    case iso => exact readIso?_of_third (by decide) _
    case before =>
      refine forall_take_succ rfl (fun g hg => told_of_blank g hg _ _) (Format.told_of_capture? ?_)
      have hblank := head?_shown h (d := .monthShort) (by decide) (' ' :: (padded 4 m.date.year ++ []))
      refine Format.capture?_day_eq_none _ ((Format.capture?_blank rfl hblank).trans ?_)
      exact capture?_monthName_of_short hmonth hmay _ _

theorem noted_name_day : notedDate ((spaced .monthName .day .year).filled m) =
    .ok (some (m.keptBy "%B %d %Y".toList)) := by
  obtain ⟨⟨hiso, hbefore⟩, -⟩ := told_of_monthTitle (month_bounds h)
    (' ' :: (padded 2 m.date.day ++ ' ' :: (padded 4 m.date.year ++ [])))
  exact notedDate_filled h (k := 10) rfl rfl rfl hiso hbefore

/-- The format without a comma gives up at one. -/
theorem told_of_comma (cs : List Char) : (spaced .monthName .day .year).told
    (monthTitle m.date.month ++ ' ' :: (padded 2 m.date.day ++ ',' :: cs)) = none := by
  apply Format.told_of_capture?
  apply Format.capture?_eq_none
  obtain ⟨hfull, -⟩ := months_told _ (Nat.lt_succ_of_le (month_bounds h).2) (month_bounds h).1
  rw [Item.candidates_name (d := .monthName) rfl hfull]
  simp only [List.mem_singleton, forall_eq, List.drop_left]
  refine (Format.capture?_blank rfl (head?_shown h (d := .day) (by decide) (',' :: cs))).trans ?_
  exact Format.capture?_day_eq_none _ (Format.capture?_of_refuses (refuses_blanks (by decide)))

theorem noted_title : notedDate ((titled .monthName).filled m) =
    .ok (some (m.keptBy "%B %d, %Y".toList)) := by
  obtain ⟨⟨hiso, hbefore⟩, -⟩ := told_of_monthTitle (month_bounds h)
    (' ' :: (padded 2 m.date.day ++ ',' :: ' ' :: (padded 4 m.date.year ++ [])))
  exact notedDate_filled h (k := 11) rfl rfl rfl hiso
    (forall_take_succ rfl hbefore (told_of_comma h _))

theorem noted_title_short : notedDate ((titled .monthShort).filled m) =
    .ok (some (m.keptBy "%b %d, %Y".toList)) := by
  have hmonth := month_bounds h
  by_cases hmay : m.date.month = 5
  · have hsame : (titled .monthShort).filled m = (titled .monthName).filled m := by
      simp only [Format.filled, titled, List.flatMap_cons, filled_may hmay]
    have hshort : m.keptBy "%b %d, %Y".toList = .midnight m.date := rfl
    have hfull : m.keptBy "%B %d, %Y".toList = .midnight m.date := rfl
    rw [hsame, hshort, ← hfull]
    exact noted_title h
  · have hname := capture?_monthName_of_short hmonth hmay
    obtain ⟨-, hiso, hbefore⟩ := told_of_monthTitle hmonth
      (' ' :: (padded 2 m.date.day ++ ',' :: ' ' :: (padded 4 m.date.year ++ [])))
    refine notedDate_filled h (k := 12) rfl rfl rfl hiso (forall_take_succ rfl
      (forall_take_succ rfl hbefore ?_) ?_)
    · exact Format.told_of_capture? (hname _ _)
    · exact Format.told_of_capture? (hname _ _)

end

/-- **No notation of dates hides another.** Whatever day and time of day is written in one of the
    notations, it is read back with the parts that the notation shows. -/
theorem notations_are_read_back {m : Moment} (h : m.isValid = true) {form : String}
    (hform : form ∈ dateNotations) (now : Moment) :
    readDate now (.text (String.ofList (m.render form.toList))) =
      .ok (some (m.keptBy form.toList)) := by
  have hread : ∀ {f : Format} {form : List Char}, notedDate (f.filled m) = .ok (some (m.keptBy form)) →
      m.render form = f.filled m → f.isPlain = true → isBounded f = true →
      readDate now (.text (String.ofList (m.render form))) = .ok (some (m.keptBy form)) := by
    intro f form hnoted hrender hplain hbounded
    rw [hrender, (isNoted_filled h hplain hbounded).readDate_eq, hnoted]
  simp only [dateNotations, List.mem_cons, List.not_mem_nil, or_false] at hform
  rcases hform with rfl | rfl | rfl | rfl | rfl | rfl | rfl | rfl | rfl | rfl | rfl | rfl | rfl
  · exact hread (noted_hyphens_seconds h) rfl rfl rfl
  · exact hread (noted_hyphens_minutes h) rfl rfl rfl
  · exact hread (noted_slashes h) rfl rfl rfl
  · exact hread (noted_slashes_seconds h) rfl rfl rfl
  · exact hread (noted_month_first h) rfl rfl rfl
  · exact hread (noted_month_first_seconds h) rfl rfl rfl
  · exact hread (noted_hyphens h) rfl rfl rfl
  · exact hread (noted_points h) rfl rfl rfl
  · exact hread (noted_day_name h) rfl rfl rfl
  · exact hread (noted_day_short h) rfl rfl rfl
  · exact hread (noted_name_day h) rfl rfl rfl
  · exact hread (noted_title h) rfl rfl rfl
  · exact hread (noted_title_short h) rfl rfl rfl

/-- A leap day by its short name, and the second of January, which is no first of February. -/
theorem notations_are_read_back_leap :
    readDate default (.text "Feb 29, 2024") = .ok (some (.midnight ⟨2024, 2, 29⟩)) ∧
      readDate default (.text "01/02/2024 05:06:07") =
        .ok (some ⟨⟨2024, 1, 2⟩, 5, 6, 7, 0, none⟩) := by
  let leap : Moment := ⟨⟨2024, 2, 29⟩, 5, 6, 7, 0, none⟩
  let second : Moment := ⟨⟨2024, 1, 2⟩, 5, 6, 7, 0, none⟩
  have hleap : leap.isValid = true := by decide
  have hsecond : second.isValid = true := by decide
  have hshort : "%b %d, %Y" ∈ dateNotations := by simp [dateNotations]
  have hslashes : "%m/%d/%Y %H:%M:%S" ∈ dateNotations := by simp [dateNotations]
  have hread := notations_are_read_back hleap hshort default
  have hread' := notations_are_read_back hsecond hslashes default
  have htext : String.ofList (leap.render "%b %d, %Y".toList) = "Feb 29, 2024" := by decide
  have htext' : String.ofList (second.render "%m/%d/%Y %H:%M:%S".toList) = "01/02/2024 05:06:07" := by
    decide
  rw [htext] at hread
  rw [htext'] at hread'
  exact ⟨hread, hread'⟩

end PayloadCheck.Check
