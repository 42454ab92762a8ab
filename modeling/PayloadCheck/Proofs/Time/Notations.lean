import PayloadCheck.Proofs.Time.Calendar
import PayloadCheck.Proofs.Time.Digits

/-!
# Texts in the notation of a format

A format that is filled in with the fields of a moment takes up the text that comes out, and reads
the fields back (`capture?_filled`, `told_filled`). Below are also the beginnings at which a format
gives up.
-/

namespace PayloadCheck.Time

open PayloadCheck.Number PayloadCheck.Text

/-! ### Filling in -/

/-- The names of the months as they are written. -/
def monthTitles : List String :=
  ["January", "February", "March", "April", "May", "June", "July", "August", "September",
   "October", "November", "December"]

/-- The name of the month with a number. -/
def monthTitle (month : Nat) : List Char := ((monthTitles[month - 1]?).getD "").toList

namespace Moment

/-- What stands for a field of a moment under the letter of its directive. -/
def shown (m : Moment) : Char → List Char
  | 'Y' => padded 4 m.date.year
  | 'm' => padded 2 m.date.month
  | 'd' => padded 2 m.date.day
  | 'B' => monthTitle m.date.month
  | 'b' => (monthTitle m.date.month).take 3
  | 'H' => padded 2 m.hour
  | 'M' => padded 2 m.minute
  | 'S' => padded 2 m.second
  | c => ['%', c]

/-- A notation with the fields of a moment in place of its directives. -/
def render (m : Moment) : List Char → List Char
  | '%' :: c :: rest => m.shown c ++ render m rest
  | c :: rest => c :: render m rest
  | [] => []

end Moment

/-- Whether a notation has the directive with a letter. -/
def mentions (letter : Char) : List Char → Bool
  | '%' :: c :: rest => c == letter || mentions letter rest
  | _ :: rest => mentions letter rest
  | [] => false

/-- A moment as far as a notation shows it, all other parts being zero. -/
def Moment.keptBy (m : Moment) (form : List Char) : Moment where
  date := m.date
  hour := if mentions 'H' form then m.hour else 0
  minute := if mentions 'M' form then m.minute else 0
  second := if mentions 'S' form then m.second else 0
  micro := 0
  offset := none

theorem Moment.isValid_of_le {m : Moment} (h : m.isValid = true) {hour minute second : Nat}
    (hhour : hour ≤ m.hour) (hminute : minute ≤ m.minute) (hsecond : second ≤ m.second) :
    (Moment.mk m.date hour minute second 0 none).isValid = true := by
  obtain ⟨hdate, hhour', hminute', hsecond', -, -⟩ := (Moment.isValid_iff m).mp h
  rw [Moment.isValid_iff]
  exact ⟨hdate, Nat.lt_of_le_of_lt hhour hhour', Nat.lt_of_le_of_lt hminute hminute',
    Nat.lt_of_le_of_lt hsecond hsecond', Nat.zero_lt_succ _, rfl⟩

theorem Moment.isValid_keptBy {m : Moment} (h : m.isValid = true) (form : List Char) :
    (m.keptBy form).isValid = true := by
  refine isValid_of_le h ?_ ?_ ?_ <;> split <;> omega

/-- The directives that are filled in. -/
def shownDirectives : List Directive :=
  [.year, .month, .day, .monthName, .monthShort, .hour, .minute, .second]

/-- What stands for an item of a format. -/
def Item.filled (m : Moment) : Item → List Char
  | literal c => [c]
  | blanks => [' ']
  | field d => m.shown d.letter

namespace Format

/-- A format with the fields of a moment in place of its directives. -/
def filled (f : Format) (m : Moment) : List Char := f.flatMap (Item.filled m)

/-- The directives of a format. -/
def directives (f : Format) : List Directive :=
  f.filterMap fun
    | .field d => some d
    | _ => none

/-- Formats of the directives above in which a field stands behind every blank. -/
def isPlain : Format → Bool
  | [] => true
  | .literal c :: rest => sameIgnoringCase c c && isPlain rest
  | .blanks :: .field d :: rest => shownDirectives.contains d && isPlain rest
  | .blanks :: _ => false
  | .field d :: rest => shownDirectives.contains d && isPlain rest

/-- The moment that a format reads from the whole of a text. -/
def told (f : Format) (cs : List Char) : Option Moment :=
  (f.capture? cs).bind fun (all, rest) =>
    if rest.isEmpty then (Fields.ofList? all).bind Fields.moment? else none

theorem read_ofList {f : Format} (h : repeated? [] 1 0 f = none) (cs : List Char) :
    ((f.read (String.ofList cs)).toOption).join = f.told cs := by
  simp only [read, h, String.toList_ofList]
  rfl

end Format

/-! ### What an item takes -/

namespace Directive

/-- A shape fits if its beginning fits what it covers of a first part, and the rest of it the
second. -/
theorem fits_append (shape : Shape) (cs rest : List Char) :
    fits shape (cs ++ rest) = (fits (shape.take cs.length) cs && fits (shape.drop cs.length) rest) := by
  induction shape generalizing cs with
  | nil => simp [fits]
  | cons p ps ih =>
    cases cs with
    | nil => simp [fits]
    | cons c cs => simp [fits, ih, Bool.and_assoc]

end Directive

namespace Item

theorem candidates_append {d : Directive} {cs : List Char}
    (h : ∀ shape ∈ d.shapes, shape.length ≤ cs.length) (rest : List Char) :
    (Item.field d).candidates (cs ++ rest) = (Item.field d).candidates cs := by
  have hfits : ∀ shape ∈ d.shapes, Directive.fits shape (cs ++ rest) = Directive.fits shape cs := by
    intro shape hshape
    rw [Directive.fits_append, List.take_of_length_le (h shape hshape),
      List.drop_eq_nil_of_le (h shape hshape), Directive.fits, Bool.and_true]
  rw [candidates, candidates, List.filter_congr hfits]

theorem candidates_two {d : Directive} (hshapes : ∀ shape ∈ d.shapes, shape.length ≤ 2) {n : Nat}
    (hhead : ((Item.field d).candidates (padded 2 n)).head? = some 2) (rest : List Char) :
    ((Item.field d).candidates (padded 2 n ++ rest)).head? = some (padded 2 n).length := by
  have hlength : ∀ shape ∈ d.shapes, shape.length ≤ (padded 2 n).length := by
    rw [length_padded]
    exact hshapes
  rw [candidates_append hlength, hhead, length_padded]

theorem candidates_year (year : Nat) (rest : List Char) :
    (Item.field .year).candidates (padded 4 year ++ rest) = [(padded 4 year).length] := by
  have hdecimal : ∀ n, isDecimal (digitChar (n % 10)) = true := by
    intro n
    rw [isDecimal, decimalValue?_of_isAsciiDigit (isAsciiDigit_digitChar n)]
    rfl
  have hfits : Directive.fits [isDecimal, isDecimal, isDecimal, isDecimal] (padded 4 year) = true := by
    simp [padded, Directive.fits, hdecimal]
  have hlength : ∀ shape ∈ Directive.year.shapes, shape.length ≤ (padded 4 year).length := by
    simp [Directive.shapes, length_padded]
  rw [candidates_append hlength]
  simp [candidates, Directive.shapes, hfits, length_padded]

/-! ### Names -/

/-- A directive of names takes those among them that begin a text. -/
theorem candidates_names {d : Directive} (hd : d.shapes = (longestFirst d.names).map Directive.spelled)
    (cs : List Char) : (Item.field d).candidates cs =
      ((longestFirst d.names).filter fun name => Directive.fits (Directive.spelled name) cs).map
        String.length := by
  simp [candidates, hd, List.filter_map, Function.comp_def, Directive.spelled, String.length_toList]

theorem mem_longestFirst {names : List String} {name : String} :
    name ∈ longestFirst names ↔ name ∈ names := List.mem_mergeSort

/-- A text of the length of a name that of all names only this one spells. -/
def Tells (names : List String) (name : String) (cs : List Char) : Prop :=
  names.filter (· == name) = [name] ∧ name.length = cs.length ∧
    ∀ other ∈ names, Directive.fits ((Directive.spelled other).take cs.length) cs = (other == name)

instance (names : List String) (name : String) (cs : List Char) : Decidable (Tells names name cs) :=
  inferInstanceAs (Decidable (_ ∧ _ ∧ _))

theorem candidates_name {d : Directive} (hd : d.shapes = (longestFirst d.names).map Directive.spelled)
    {name : String} {cs : List Char} (h : Tells d.names name cs) (rest : List Char) :
    (Item.field d).candidates (cs ++ rest) = [cs.length] := by
  obtain ⟨hname, hlength, htold⟩ := h
  have hfits : ∀ other ∈ longestFirst d.names,
      Directive.fits (Directive.spelled other) (cs ++ rest) = (other == name) := by
    intro other hother
    rw [Directive.fits_append, htold other (mem_longestFirst.mp hother)]
    by_cases heq : other = name
    · have hshape : (Directive.spelled other).length ≤ cs.length := by
        simp [Directive.spelled, heq, hlength, String.length_toList]
      rw [List.drop_eq_nil_of_le hshape, Directive.fits, Bool.and_true]
    · rw [beq_false_of_ne heq, Bool.false_and]
  -- the names are tried in an order of their own, which does not matter where only one of them fits
  have hperm : ((longestFirst d.names).filter (· == name)).Perm [name] := by
    rw [← hname]
    exact (List.mergeSort_perm _ _).filter _
  rw [candidates_names hd, List.filter_congr hfits, List.perm_singleton.mp hperm, List.map_singleton,
    hlength]

theorem candidates_none {d : Directive} (hd : d.shapes = (longestFirst d.names).map Directive.spelled)
    {cs : List Char}
    (hnone : ∀ other ∈ d.names, Directive.fits ((Directive.spelled other).take cs.length) cs = false)
    (rest : List Char) : (Item.field d).candidates (cs ++ rest) = [] := by
  have hfits : ∀ other ∈ longestFirst d.names,
      Directive.fits (Directive.spelled other) (cs ++ rest) = false := by
    intro other hother
    rw [Directive.fits_append, hnone other (mem_longestFirst.mp hother), Bool.false_and]
  rw [candidates_names hd, List.map_eq_nil_iff, List.filter_eq_nil_iff]
  intro other hother
  rw [hfits other hother]
  exact Bool.false_ne_true

end Item

/-- The name of a month as the directives of months know it. -/
def monthName (names : List String) (month : Nat) : String := (names[month - 1]?).getD ""

/-- The name of a month, in full or short, is told from those of all others. -/
theorem months_told : ∀ month < 13, 0 < month →
    Item.Tells monthNames (monthName monthNames month) (monthTitle month) ∧
      Item.Tells (shortNames monthNames) (monthName (shortNames monthNames) month)
        ((monthTitle month).take 3) := by
  decide +kernel

/-! ### Filled formats are read -/

theorem mem_shownDirectives {f : Format} (hf : f.isPlain = true) {d : Directive}
    (hd : d ∈ f.directives) : d ∈ shownDirectives := by
  fun_induction Format.isPlain f with
  | case1 => cases hd
  | case2 c f ih => exact ih (Bool.and_eq_true_iff.mp hf).2 hd
  | case3 e f ih =>
    obtain ⟨he, hf⟩ := Bool.and_eq_true_iff.mp hf
    rcases List.mem_cons.mp hd with rfl | hd
    · exact List.contains_iff_mem.mp he
    · exact ih hf hd
  | case4 => cases hf
  | case5 e f ih =>
    obtain ⟨he, hf⟩ := Bool.and_eq_true_iff.mp hf
    rcases List.mem_cons.mp hd with rfl | hd
    · exact List.contains_iff_mem.mp he
    · exact ih hf hd

namespace Format

variable {f : Format} {cs rest : List Char} {fields : List (Directive × List Char)}

theorem capture?_literal {c : Char} (hc : sameIgnoringCase c c = true)
    (h : capture? f cs = some (fields, rest)) :
    capture? (.literal c :: f) (c :: cs) = some (fields, rest) := by
  simp [capture?, Item.candidates, Directive.fits, hc, h]

theorem candidates_blank {c : Char} (hc : isBlank c = true) (hcs : cs.head?.any isBlank = false) :
    Item.blanks.candidates (c :: cs) = [1] := by
  cases cs with
  | nil => simp [Item.candidates, hc]
  | cons d rest =>
    have hd : isBlank d = false := hcs
    simp [Item.candidates, hc, hd]

/-- A blank behind which there is no other. -/
theorem capture?_blank {c : Char} (hc : isBlank c = true) (hcs : cs.head?.any isBlank = false) :
    capture? (.blanks :: f) (c :: cs) = capture? f cs := by
  rw [capture?, candidates_blank hc hcs]
  cases hrest : capture? f cs <;> simp [hrest]

theorem capture?_field {d : Directive} {shown : List Char}
    (hhead : ((Item.field d).candidates (shown ++ cs)).head? = some shown.length)
    (h : capture? f cs = some (fields, rest)) :
    capture? (.field d :: f) (shown ++ cs) = some ((d, shown) :: fields, rest) := by
  obtain ⟨others, hcandidates⟩ : ∃ others, (Item.field d).candidates (shown ++ cs) =
      shown.length :: others := by
    cases hall : (Item.field d).candidates (shown ++ cs) with
    | nil =>
      rw [hall] at hhead
      cases hhead
    | cons n others =>
      rw [hall] at hhead
      cases hhead
      exact ⟨others, rfl⟩
  simp [capture?, hcandidates, h]

end Format

section Filled

variable {m : Moment} (h : m.isValid = true)
include h

theorem fields_bounds : (m.date.year ≤ 9999 ∧ (1 ≤ m.date.month ∧ m.date.month ≤ 12) ∧
    1 ≤ m.date.day ∧ m.date.day ≤ 31) ∧ m.hour < 24 ∧ m.minute < 60 ∧ m.second < 60 := by
  obtain ⟨hdate, hhour, hminute, hsecond, -, -⟩ := (Moment.isValid_iff m).mp h
  exact ⟨Date.bounds_of_isValid hdate, hhour, hminute, hsecond⟩

theorem month_bounds : 1 ≤ m.date.month ∧ m.date.month ≤ 12 := (fields_bounds h).1.2.1

/-- What a directive tries first on its field is the whole of it. -/
theorem candidates_shown {d : Directive} (hd : d ∈ shownDirectives) (rest : List Char) :
    ((Item.field d).candidates (m.shown d.letter ++ rest)).head? = some (m.shown d.letter).length := by
  obtain ⟨⟨-, ⟨hmonth, hmonth'⟩, hday, hday'⟩, hhour, hminute, hsecond⟩ := fields_bounds h
  obtain ⟨hfull, hshort⟩ := months_told _ (Nat.lt_succ_of_le hmonth') hmonth
  have hhours : ∀ n < 24, ((Item.field .hour).candidates (padded 2 n)).head? = some 2 := by decide
  have hminutes : ∀ n < 60, ((Item.field .minute).candidates (padded 2 n)).head? = some 2 := by decide
  have hseconds : ∀ n < 60, ((Item.field .second).candidates (padded 2 n)).head? = some 2 := by decide
  have hdays : ∀ n < 32, 0 < n → ((Item.field .day).candidates (padded 2 n)).head? = some 2 := by
    decide
  have hmonths : ∀ n < 13, 0 < n → ((Item.field .month).candidates (padded 2 n)).head? = some 2 := by
    decide
  simp only [shownDirectives, List.mem_cons, List.not_mem_nil, or_false] at hd
  rcases hd with rfl | rfl | rfl | rfl | rfl | rfl | rfl | rfl
  · exact congrArg List.head? (Item.candidates_year m.date.year rest)
  · exact Item.candidates_two (by decide) (hmonths _ (Nat.lt_succ_of_le hmonth') hmonth) rest
  · exact Item.candidates_two (by decide) (hdays _ (Nat.lt_succ_of_le hday') hday) rest
  · exact congrArg List.head? (Item.candidates_name (d := .monthName) rfl hfull rest)
  · exact congrArg List.head? (Item.candidates_name (d := .monthShort) rfl hshort rest)
  · exact Item.candidates_two (by decide) (hhours _ hhour) rest
  · exact Item.candidates_two (by decide) (hminutes _ hminute) rest
  · exact Item.candidates_two (by decide) (hseconds _ hsecond) rest

/-- What stands for a field does not begin with a blank. -/
theorem head?_shown {d : Directive} (hd : d ∈ shownDirectives) (rest : List Char) :
    (m.shown d.letter ++ rest).head?.any isBlank = false := by
  obtain ⟨⟨-, ⟨hmonth, hmonth'⟩, -⟩, -⟩ := fields_bounds h
  have hpadded : ∀ width n, (padded (width + 1) n).head?.any (fun c => !isBlank c) = true := by
    intro width n
    obtain ⟨c, cs, hcons, hdigit⟩ := exists_head_padded width n
    simp [hcons, isBlank_of_isAsciiDigit hdigit]
  have htitles : ∀ month < 13, 0 < month →
      (monthTitle month).head?.any (fun c => !isBlank c) = true ∧
        ((monthTitle month).take 3).head?.any (fun c => !isBlank c) = true := by
    decide +kernel
  obtain ⟨hfull, hshort⟩ := htitles _ (Nat.lt_succ_of_le hmonth') hmonth
  have hfirst : (m.shown d.letter).head?.any (fun c => !isBlank c) = true := by
    simp only [shownDirectives, List.mem_cons, List.not_mem_nil, or_false] at hd
    rcases hd with rfl | rfl | rfl | rfl | rfl | rfl | rfl | rfl
    · exact hpadded 3 _
    · exact hpadded 1 _
    · exact hpadded 1 _
    · exact hfull
    · exact hshort
    · exact hpadded 1 _
    · exact hpadded 1 _
    · exact hpadded 1 _
  cases hshown : m.shown d.letter with
  | nil =>
    rw [hshown] at hfirst
    cases hfirst
  | cons c more =>
    rw [hshown] at hfirst
    simpa using hfirst

/-- A filled format takes up what it was filled with, whatever comes behind. -/
theorem capture?_filled {f : Format} (hf : f.isPlain = true) (rest : List Char) :
    f.capture? (f.filled m ++ rest) =
      some (f.directives.map fun d => (d, m.shown d.letter), rest) := by
  -- along the cases of `isPlain`, which takes blanks together with the field behind them: there is
  -- just one way to read them, as the field does not begin with a blank
  fun_induction Format.isPlain f with
  | case1 => rfl
  | case2 c f ih =>
    obtain ⟨hsame, hf⟩ := Bool.and_eq_true_iff.mp hf
    exact Format.capture?_literal hsame (ih hf)
  | case3 d f ih =>
    obtain ⟨hd, hf⟩ := Bool.and_eq_true_iff.mp hf
    have hd : d ∈ shownDirectives := List.contains_iff_mem.mp hd
    have hcs : Format.filled (.blanks :: .field d :: f) m ++ rest =
        ' ' :: (m.shown d.letter ++ (Format.filled f m ++ rest)) := by
      simp [Format.filled, Item.filled]
    rw [hcs, Format.capture?_blank rfl (head?_shown h hd _)]
    exact Format.capture?_field (candidates_shown h hd _) (ih hf)
  | case4 => cases hf
  | case5 d f ih =>
    obtain ⟨hd, hf⟩ := Bool.and_eq_true_iff.mp hf
    have hd : d ∈ shownDirectives := List.contains_iff_mem.mp hd
    have hcs : Format.filled (.field d :: f) m ++ rest =
        m.shown d.letter ++ (Format.filled f m ++ rest) := by
      simp [Format.filled, Item.filled]
    rw [hcs]
    exact Format.capture?_field (candidates_shown h hd _) (ih hf)

/-! ### From the fields to the moment -/

/-- Takes into account the fields of a moment that a directive shows. -/
def Moment.tell (m : Moment) (f : Fields) : Directive → Fields
  | .year => { f with year := some m.date.year }
  | .month | .monthName | .monthShort => { f with month := m.date.month }
  | .day => { f with day := m.date.day }
  | .hour => { f with hour := m.hour }
  | .minute => { f with minute := m.minute }
  | .second => { f with second := m.second }
  | _ => f

theorem add?_shown {d : Directive} (hd : d ∈ shownDirectives)
    (all : List (Directive × List Char)) (f : Fields) :
    f.add? all d (m.shown d.letter) = some (m.tell f d) := by
  obtain ⟨⟨hyear, ⟨hmonth, hmonth'⟩, -, hday⟩, hhour, hminute, hsecond⟩ := fields_bounds h
  have htwo : ∀ n < 100, decimalOf (padded 2 n) = n := fun n hn => decimalOf_padded hn
  have htitles : ∀ month < 13, 0 < month → nameIndex? monthNames (monthTitle month) = some (month - 1) ∧
      nameIndex? (shortNames monthNames) ((monthTitle month).take 3) = some (month - 1) := by
    decide +kernel
  obtain ⟨hfull, hshort⟩ := htitles _ (Nat.lt_succ_of_le hmonth') hmonth
  have hmonth'' : m.date.month - 1 + 1 = m.date.month := Nat.sub_add_cancel hmonth
  simp only [shownDirectives, List.mem_cons, List.not_mem_nil, or_false] at hd
  rcases hd with rfl | rfl | rfl | rfl | rfl | rfl | rfl | rfl
  · have hvalue : decimalOf (padded 4 m.date.year) = m.date.year := decimalOf_padded (by omega)
    simp [Fields.add?, Moment.shown, Directive.letter, Moment.tell, hvalue]
  · simp [Fields.add?, Moment.shown, Directive.letter, Moment.tell, htwo m.date.month (by omega)]
  · simp [Fields.add?, Moment.shown, Directive.letter, Moment.tell, htwo m.date.day (by omega)]
  · simp [Fields.add?, Moment.shown, Directive.letter, Moment.tell, Directive.names, hfull, hmonth'']
  · simp [Fields.add?, Moment.shown, Directive.letter, Moment.tell, Directive.names, hshort, hmonth'']
  · simp [Fields.add?, Moment.shown, Directive.letter, Moment.tell, htwo m.hour (by omega)]
  · simp [Fields.add?, Moment.shown, Directive.letter, Moment.tell, htwo m.minute (by omega)]
  · simp [Fields.add?, Moment.shown, Directive.letter, Moment.tell, htwo m.second (by omega)]

theorem ofList?_shown {ds : List Directive} (hds : ∀ d ∈ ds, d ∈ shownDirectives) :
    Fields.ofList? (ds.map fun d => (d, m.shown d.letter)) = some (ds.foldl m.tell {}) := by
  have hfold : ∀ (all : List (Directive × List Char)) (f : Fields),
      (ds.map fun d => (d, m.shown d.letter)).foldlM (fun f field => f.add? all field.1 field.2) f =
        some (ds.foldl m.tell f) := by
    induction ds with
    | nil => exact fun _ _ => rfl
    | cons d rest ih =>
      obtain ⟨hd, hrest⟩ := List.forall_mem_cons.mp hds
      intro all f
      simp only [List.map_cons, List.foldlM_cons, add?_shown h hd]
      exact ih hrest all _
  exact hfold _ {}

/-- A filled format tells what its directives tell together. -/
theorem told_filled {f : Format} (hf : f.isPlain = true) :
    f.told (f.filled m) = (f.directives.foldl m.tell {}).moment? := by
  have hcapture := capture?_filled h hf []
  rw [List.append_nil] at hcapture
  have hfields := ofList?_shown h fun d hd => mem_shownDirectives hf hd
  simp [Format.told, hcapture, hfields]

theorem told_filled_append {f : Format} (hf : f.isPlain = true) (c : Char) (cs : List Char) :
    f.told (f.filled m ++ c :: cs) = none := by
  simp [Format.told, capture?_filled h hf]

end Filled

/-- Year, month, day and time of day tell their moment. -/
theorem moment?_eq {d : Date} {hour minute second : Nat}
    (h : (Moment.mk d hour minute second 0 none).isValid = true) {f : Fields}
    (hf : f = { year := some d.year, month := d.month, day := d.day, hour, minute, second := second }) :
    f.moment? = some ⟨d, hour, minute, second, 0, none⟩ := by
  have hdate : d.isValid = true := ((Moment.isValid_iff _).mp h).1
  obtain ⟨hyear, hyear'⟩ := Date.year_of_isValid hdate
  have hyears : ¬ (d.year = 0 ∨ 9999 < d.year) := by omega
  have hdate' : f.date? = some d := by
    simp [hf, Fields.date?, Fields.weeksAgree, hyears, hdate]
  rw [Fields.moment?, hdate']
  simp [hf, h]

/-! ### Where a format gives up -/

/-- An item that takes nothing where the character stands. -/
def Item.Refuses (item : Item) (c : Char) : Prop := ∀ cs, item.candidates (c :: cs) = []

theorem refuses_literal {m c : Char} (hm : hasCaseForms m = false) (h : c ≠ m) :
    (Item.literal m).Refuses c := by
  intro cs
  simp [Item.candidates, Directive.fits, sameIgnoringCase, hm, h]

theorem refuses_blanks {c : Char} (h : isBlank c = false) : Item.blanks.Refuses c := by
  intro cs
  simp [Item.candidates, h]

namespace Format

variable {item : Item} {f : Format} {cs : List Char}

theorem told_of_capture? (h : f.capture? cs = none) : f.told cs = none := by
  rw [told, h]
  rfl

/-- A format gives up where what follows an item gives up behind all that the item can take. -/
theorem capture?_eq_none (h : ∀ n ∈ item.candidates cs, capture? f (cs.drop n) = none) :
    capture? (item :: f) cs = none := by
  rw [capture?, List.findSome?_eq_none_iff]
  intro n hn
  rw [h n hn]
  rfl

theorem capture?_of_refuses {c : Char} (h : item.Refuses c) : capture? (item :: f) (c :: cs) = none := by
  apply capture?_eq_none
  rw [h cs]
  exact nofun

/-- A field of one or two characters, behind neither of which the next item takes anything. -/
theorem capture?_of_short {d : Directive} (hd : ∀ shape ∈ d.shapes, shape.length = 1 ∨ shape.length = 2)
    {a b : Char} (hone : capture? f (b :: cs) = none) (htwo : capture? f cs = none) :
    capture? (.field d :: f) (a :: b :: cs) = none := by
  apply capture?_eq_none
  intro n hn
  obtain ⟨shape, hshape, rfl⟩ := List.mem_map.mp hn
  rcases hd shape (List.mem_filter.mp hshape).1 with hlength | hlength
  · rw [hlength]
    exact hone
  · rw [hlength]
    exact htwo

/-- Blanks are found neither behind one nor behind both digits of a day. -/
theorem capture?_day_eq_none {c : Char} (day : Nat) (h : capture? (.blanks :: f) (c :: cs) = none) :
    capture? (.field .day :: .blanks :: f) (padded 2 day ++ c :: cs) = none := by
  have hdigit : isBlank (digitChar (day % 10)) = false :=
    isBlank_of_isAsciiDigit (isAsciiDigit_digitChar day)
  exact capture?_of_short (by decide) (capture?_of_refuses (refuses_blanks hdigit)) h

theorem capture?_year_eq_none {a b c : Char} (hc : isDecimal c = false) :
    capture? (.field .year :: f) (a :: b :: c :: cs) = none := by
  apply capture?_eq_none
  simp [Item.candidates, Directive.shapes, Directive.fits, hc]

theorem capture?_year_of_refuses (year : Nat) {c : Char} (hc : item.Refuses c) :
    capture? (.field .year :: item :: f) (padded 4 year ++ c :: cs) = none := by
  apply capture?_eq_none
  rw [Item.candidates_year]
  simp [capture?_of_refuses hc]

end Format

end PayloadCheck.Time
