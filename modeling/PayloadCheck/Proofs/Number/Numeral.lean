import Mathlib.Data.List.TakeDrop
import Mathlib.Data.List.TakeWhile
import PayloadCheck.Proofs.Time.Digits
import PayloadCheck.Proofs.Value.Path

/-!
# Written numbers

A whole number is written in decimal digits, with a sign in front and plain blanks around
(`Numeral`). It is read as the number that its digits stand for, as long as there are not too many
of them (`readWhole_text`). What counts as numeric is a number with a point and an exponent that may
both be missing (`DecimalNumeral`, `isNumericText_iff`); it can be read at least as a double, so a
numeric text always denotes a number (`exists_numberOfText`).
-/

namespace PayloadCheck

open PayloadCheck.Text PayloadCheck.Number PayloadCheck.Time

/-! ### Blanks -/

section

variable {p : Char → Bool} {before core after cs : List Char}

theorem dropWhile_append_of_none (hcore : ∀ c ∈ core, p c = false) (hne : core ≠ []) :
    (core ++ after).dropWhile p = core ++ after := by
  obtain ⟨c, rest, rfl⟩ := List.exists_cons_of_ne_nil hne
  rw [List.cons_append, List.dropWhile_cons_of_neg]
  simp [hcore c (List.mem_cons_self ..)]

theorem dropEndWhile_append_of_all (hcore : ∀ c ∈ core, p c = false)
    (hafter : ∀ c ∈ after, p c = true) : dropEndWhile p (core ++ after) = core := by
  have hback : (core ++ after).reverse.dropWhile p = core.reverse.dropWhile p := by
    rw [List.reverse_append, List.dropWhile_append_of_pos]
    intro c hc
    exact hafter c (List.mem_reverse.mp hc)
  rw [dropEndWhile, hback]
  by_cases hne : core = []
  · subst hne
    rfl
  · have hkept : (core.reverse ++ []).dropWhile p = core.reverse ++ [] :=
      dropWhile_append_of_none (fun c hc => hcore c (List.mem_reverse.mp hc)) (by simpa using hne)
    rw [List.append_nil] at hkept
    rw [hkept, List.reverse_reverse]

/-- What stands between blanks is what trimming leaves. -/
theorem trimBy_between (hbefore : ∀ c ∈ before, p c = true) (hcore : ∀ c ∈ core, p c = false)
    (hafter : ∀ c ∈ after, p c = true) :
    dropEndWhile p ((before ++ (core ++ after)).dropWhile p) = core := by
  rw [List.dropWhile_append_of_pos hbefore]
  by_cases hne : core = []
  · subst hne
    have hnothing : after.dropWhile p = [] := by
      rw [List.dropWhile_eq_nil_iff]
      exact hafter
    rw [List.nil_append, hnothing]
    rfl
  · rw [dropWhile_append_of_none hcore hne]
    exact dropEndWhile_append_of_all hcore hafter

/-- What satisfies a condition throughout is taken off the front of what does not go on so. -/
theorem takeWhile_dropWhile_append (hcore : ∀ c ∈ core, p c = true)
    (hafter : ∀ c ∈ after.head?, p c = false) :
    (core ++ after).takeWhile p = core ∧ (core ++ after).dropWhile p = after := by
  rw [List.takeWhile_append_of_pos hcore, List.dropWhile_append_of_pos hcore]
  cases after with
  | nil => exact ⟨List.append_nil core, rfl⟩
  | cons c rest =>
    have hc : ¬ p c = true := by simp [hafter c rfl]
    rw [List.takeWhile_cons_of_neg hc, List.dropWhile_cons_of_neg hc, List.append_nil]
    exact ⟨rfl, rfl⟩

theorem exists_around (p : Char → Bool) (cs : List Char) :
    ∃ before after, cs = before ++ (dropEndWhile p (cs.dropWhile p) ++ after) ∧
      (∀ c ∈ before, p c = true) ∧ ∀ c ∈ after, p c = true := by
  refine ⟨cs.takeWhile p, ((cs.dropWhile p).reverse.takeWhile p).reverse, ?_, ?_, ?_⟩
  · rw [dropEndWhile, ← List.reverse_append, List.takeWhile_append_dropWhile, List.reverse_reverse,
      List.takeWhile_append_dropWhile]
  · intro c hc
    exact List.mem_takeWhile_imp hc
  · intro c hc
    exact List.mem_takeWhile_imp (List.mem_reverse.mp hc)

end

theorem isBlank_of_isAsciiBlank {c : Char} (h : isAsciiBlank c = true) : isBlank c = true := by
  simp only [isAsciiBlank, Bool.or_eq_true, Bool.and_eq_true, decide_eq_true_eq,
    beq_iff_eq] at h
  simp only [isBlank, Bool.or_eq_true, Bool.and_eq_true, decide_eq_true_eq, beq_iff_eq]
  omega

theorem isAsciiBlank_eq_false {c : Char} (h : isBlank c = false) : isAsciiBlank c = false := by
  cases hc : isAsciiBlank c with
  | false => rfl
  | true => rw [isBlank_of_isAsciiBlank hc] at h; cases h

/-- Plain blanks around characters that are not blank at all: both ways of trimming agree. -/
theorem trimChars_between {before core after : List Char}
    (hbefore : ∀ c ∈ before, isAsciiBlank c = true) (hcore : ∀ c ∈ core, isBlank c = false)
    (hafter : ∀ c ∈ after, isAsciiBlank c = true) :
    trimChars (before ++ (core ++ after)) = core ∧
      Value.trimAscii (before ++ (core ++ after)) = core := by
  constructor
  · exact trimBy_between (fun c hc => isBlank_of_isAsciiBlank (hbefore c hc)) hcore
      fun c hc => isBlank_of_isAsciiBlank (hafter c hc)
  · exact trimBy_between hbefore (fun c hc => isAsciiBlank_eq_false (hcore c hc)) hafter

namespace Number

/-! ### Signs and digits -/

/-- What may stand in front of the digits of a number. -/
inductive Sign where
  | none
  | plus
  | minus
deriving DecidableEq, Repr

def Sign.chars : Sign → List Char
  | none => []
  | plus => ['+']
  | minus => ['-']

/-- Digits are not blank and are no sign. -/
theorem of_isAsciiDigit {c : Char} (h : isAsciiDigit c = true) :
    isBlank c = false ∧ c ≠ '-' ∧ c ≠ '+' ∧ c ≠ '_' ∧ c ≠ '.' :=
  ⟨isBlank_of_isAsciiDigit h, ne_of_isAsciiDigit h rfl, ne_of_isAsciiDigit h rfl,
    ne_of_isAsciiDigit h rfl, ne_of_isAsciiDigit h rfl⟩

theorem isDecimal_of_isAsciiDigit {c : Char} (h : isAsciiDigit c = true) : isDecimal c = true := by
  rw [isDecimal, decimalValue?_of_isAsciiDigit h]
  rfl

theorem takeSign_chars (sign : Sign) {c : Char} (rest : List Char) (hminus : c ≠ '-')
    (hplus : c ≠ '+') :
    takeSign (sign.chars ++ c :: rest) = (sign == .minus, c :: rest) := by
  cases sign with
  | none =>
    rw [Sign.chars, List.nil_append, takeSign]
    · rfl
    · exact fun _ heq => hminus (List.cons.inj heq).1
    · exact fun _ heq => hplus (List.cons.inj heq).1
  | plus => rfl
  | minus => rfl

theorem exists_sign (cs : List Char) :
    ∃ sign : Sign, cs = sign.chars ++ (takeSign cs).2 := by
  unfold takeSign
  split
  · exact ⟨.minus, rfl⟩
  · exact ⟨.plus, rfl⟩
  · exact ⟨.none, rfl⟩

theorem isBlank_of_mem_sign {sign : Sign} {c : Char} (h : c ∈ sign.chars) : isBlank c = false := by
  cases sign with
  | none => cases h
  | plus =>
    rw [List.mem_singleton.mp h]
    decide
  | minus =>
    rw [List.mem_singleton.mp h]
    decide

theorem digitValues?_of_digits {ds : List Char} (hne : ds ≠ [])
    (h : ∀ c ∈ ds, isAsciiDigit c = true) :
    digitValues? ds = some (ds.map fun c => c.toNat - 48) := by
  induction ds with
  | nil => exact absurd rfl hne
  | cons c rest ih =>
    obtain ⟨hc, hrest⟩ := List.forall_mem_cons.mp h
    by_cases hnil : rest = []
    · subst hnil
      simp [digitValues?, decimalValue?_of_isAsciiDigit hc]
    · have hplain : '_' ∉ rest := fun hmem => (of_isAsciiDigit (hrest _ hmem)).2.2.2.1 rfl
      rw [digitValues?_cons hnil hplain, ih hnil hrest, decimalValue?_of_isAsciiDigit hc]
      rfl

theorem ofDigits_map (ds : List Char) :
    ofDigits (ds.map fun c => c.toNat - 48) = Nat.ofDigitChars 10 ds 0 := by
  rw [ofDigits, List.foldl_map]
  rfl

/-! ### Whole numbers -/

/-- A whole number as it is written: at least one digit from 0 to 9, a sign in front if there is
one, and plain blanks around. -/
structure Numeral where
  before : List Char
  sign : Sign
  digits : List Char
  after : List Char
  before_blank : ∀ c ∈ before, isAsciiBlank c = true
  digits_ne_nil : digits ≠ []
  digits_decimal : ∀ c ∈ digits, isAsciiDigit c = true
  after_blank : ∀ c ∈ after, isAsciiBlank c = true

namespace Numeral

def text (w : Numeral) : String :=
  String.ofList (w.before ++ (w.sign.chars ++ w.digits ++ w.after))

/-- The whole number that a numeral stands for. -/
def value (w : Numeral) : Int :=
  if w.sign = .minus then -(Nat.ofDigitChars 10 w.digits 0 : Int)
  else Nat.ofDigitChars 10 w.digits 0

variable (w : Numeral)

theorem isBlank_of_mem {c : Char} (h : c ∈ w.sign.chars ++ w.digits) : isBlank c = false := by
  rcases List.mem_append.mp h with hsign | hdigit
  · exact isBlank_of_mem_sign hsign
  · exact (of_isAsciiDigit (w.digits_decimal c hdigit)).1

theorem trim_text : trimChars w.text.toList = w.sign.chars ++ w.digits ∧
    Value.trimAscii w.text.toList = w.sign.chars ++ w.digits := by
  rw [text, String.toList_ofList]
  exact trimChars_between w.before_blank (fun c => w.isBlank_of_mem) w.after_blank

theorem takeSign_text :
    takeSign (w.sign.chars ++ w.digits) = (w.sign == .minus, w.digits) := by
  obtain ⟨c, rest, hcons⟩ := List.exists_cons_of_ne_nil w.digits_ne_nil
  have hc : isAsciiDigit c = true := w.digits_decimal c (hcons ▸ List.mem_cons_self ..)
  obtain ⟨-, hminus, hplus, -⟩ := of_isAsciiDigit hc
  rw [hcons]
  exact takeSign_chars w.sign rest hminus hplus

theorem signed_ofDigits :
    Double.signed (w.sign == .minus) (ofDigits (w.digits.map fun c => c.toNat - 48)) =
      w.value := by
  rw [ofDigits_map, value, Double.signed]
  simp only [beq_iff_eq]

/-- A numeral is read as the number that it stands for, unless it has too many digits. -/
theorem readWhole_text : readWhole w.text =
    if maxDigits < w.digits.length then .error (.tooLong w.digits.length) else .ok w.value := by
  unfold readWhole
  rw [w.trim_text.1, w.takeSign_text]
  simp only [digitValues?_of_digits w.digits_ne_nil w.digits_decimal, List.length_map,
    signed_ofDigits]

theorem isNumericText_text : Value.isNumericText w.text = true := by
  have hall : w.digits.takeWhile isAsciiDigit = w.digits :=
    List.takeWhile_eq_self_iff.mpr w.digits_decimal
  have hnone : w.digits.dropWhile isAsciiDigit = [] :=
    List.dropWhile_eq_nil_iff.mpr w.digits_decimal
  rw [Value.isNumericText, w.trim_text.2, w.takeSign_text, Value.isNumericForm]
  simp [hall, hnone, w.digits_ne_nil, Value.isExponent]

/-- No zero stands before another digit. -/
def IsReduced (w : Numeral) : Prop := w.digits = ['0'] ∨ w.digits.head? ≠ some '0'

end Numeral

theorem Numeral.isIntegerText_text {w : Numeral} (h : w.IsReduced) :
    Value.isIntegerText w.text = true := by
  unfold Value.isIntegerText
  rw [w.trim_text.2, w.takeSign_text]
  rcases h with hzero | hhead
  · rw [hzero]
    rfl
  · obtain ⟨c, rest, hcons⟩ := List.exists_cons_of_ne_nil w.digits_ne_nil
    have hdigits := w.digits_decimal
    rw [hcons] at hhead hdigits ⊢
    have hc : c ≠ '0' := fun heq => hhead (congrArg some heq)
    split
    · next hnil => cases hnil
    · rfl
    · next d more hmore =>
      cases hmore
      simpa [hc] using hdigits

theorem exists_numeral_of_isIntegerText {s : String} (h : Value.isIntegerText s = true) :
    ∃ w : Numeral, w.text = s ∧ w.IsReduced := by
  obtain ⟨before, after, haround, hbefore, hafter⟩ := exists_around isAsciiBlank s.toList
  obtain ⟨sign, hsign⟩ := exists_sign (Value.trimAscii s.toList)
  unfold Value.isIntegerText at h
  generalize hdigits : (takeSign (Value.trimAscii s.toList)).2 = ds at h hsign
  have htext : s = String.ofList (before ++ (sign.chars ++ ds ++ after)) := by
    rw [← hsign]
    exact (String.toList_inj.mp (haround.trans String.toList_ofList.symm))
  have hwritten : ∀ (hne : ds ≠ []) (hds : ∀ c ∈ ds, isAsciiDigit c = true)
      (_ : ds = ['0'] ∨ ds.head? ≠ some '0'), ∃ w : Numeral, w.text = s ∧ w.IsReduced :=
    fun hne hds hreduced =>
      ⟨⟨before, sign, ds, after, hbefore, hne, hds, hafter⟩, htext.symm, hreduced⟩
  split at h
  · cases h
  · exact hwritten (by simp) (List.all_eq_true.mp rfl) (Or.inl rfl)
  · next c rest _ =>
    rw [Bool.and_eq_true, List.all_eq_true] at h
    exact hwritten (by simp) h.2 (Or.inr (by simpa using h.1))

/-- What counts as the text of a whole number is a numeral without superfluous zeros. -/
theorem isIntegerText_iff {s : String} :
    Value.isIntegerText s = true ↔ ∃ w : Numeral, w.text = s ∧ w.IsReduced := by
  constructor
  · exact exists_numeral_of_isIntegerText
  · rintro ⟨w, rfl, hreduced⟩
    exact w.isIntegerText_text hreduced

/-! ### Decimal forms -/

/-- The parts of a number in plain digits: the digits before the point, those behind it if there is
a point, and an exponent, which may be empty. -/
structure Parts where
  whole : List Char
  fraction : Option (List Char)
  exponent : List Char
  whole_decimal : ∀ c ∈ whole, isAsciiDigit c = true
  fraction_decimal : ∀ ds ∈ fraction, ∀ c ∈ ds, isAsciiDigit c = true
  digits_ne_nil : whole ≠ [] ∨ ∃ ds ∈ fraction, ds ≠ []
  isExponent : Value.isExponent exponent = true

namespace Parts

/-- What follows the digits before the point. -/
def tail (p : Parts) : List Char :=
  match p.fraction with
  | .none => p.exponent
  | .some ds => '.' :: (ds ++ p.exponent)

def chars (p : Parts) : List Char := p.whole ++ p.tail

end Parts

theorem exists_parts {cs : List Char} (h : Value.isNumericForm cs = true) :
    ∃ p : Parts, p.chars = cs := by
  have hwhole : ∀ c ∈ cs.takeWhile isAsciiDigit, isAsciiDigit c = true :=
    fun c hc => List.mem_takeWhile_imp hc
  have hsplit : cs.takeWhile isAsciiDigit ++ cs.dropWhile isAsciiDigit = cs :=
    List.takeWhile_append_dropWhile
  unfold Value.isNumericForm at h
  dsimp only at h
  split at h
  · next more hrest =>
    rw [Bool.and_eq_true, Bool.or_eq_true] at h
    refine ⟨⟨_, .some (more.takeWhile isAsciiDigit), more.dropWhile isAsciiDigit, hwhole, ?_, ?_,
      h.2⟩, ?_⟩
    · rintro ds hds c hc
      cases hds
      exact List.mem_takeWhile_imp hc
    · simpa using h.1
    · simp only [Parts.chars, Parts.tail, List.takeWhile_append_dropWhile]
      rw [← hrest, hsplit]
  · rw [Bool.and_eq_true] at h
    refine ⟨⟨_, .none, _, hwhole, by simp, Or.inl (by simpa using h.1), h.2⟩, ?_⟩
    exact hsplit

namespace Parts

variable {p : Parts} {cs : List Char} {c : Char}

/-- An exponent is empty, or a letter, a sign and digits. -/
theorem exponent_cases (h : Value.isExponent cs = true) : cs = [] ∨
    ∃ mark sign ds, cs = mark :: (Sign.chars sign ++ ds) ∧ (mark = 'e' ∨ mark = 'E') ∧
      takeSign (sign.chars ++ ds) = (sign == .minus, ds) ∧ ds ≠ [] ∧
      ∀ c ∈ ds, isAsciiDigit c = true := by
  cases cs with
  | nil => exact Or.inl rfl
  | cons mark rest =>
    right
    obtain ⟨sign, hsign⟩ := exists_sign rest
    simp only [Value.isExponent, Bool.and_eq_true, Bool.or_eq_true, beq_iff_eq, Bool.not_eq_true',
      List.isEmpty_eq_false_iff, List.all_eq_true] at h
    obtain ⟨⟨hmark, hne⟩, hdigits⟩ := h
    generalize (takeSign rest).2 = ds at hne hdigits hsign
    refine ⟨mark, sign, ds, by rw [hsign], hmark, ?_, hne, hdigits⟩
    obtain ⟨d, more, rfl⟩ := List.exists_cons_of_ne_nil hne
    obtain ⟨-, hminus, hplus, -⟩ := of_isAsciiDigit (hdigits d (List.mem_cons_self ..))
    exact takeSign_chars sign more hminus hplus

theorem exists_exponent (h : Value.isExponent cs = true) : ∃ e, exponent? cs = some e := by
  rcases exponent_cases h with rfl | ⟨mark, sign, ds, rfl, hmark, hsign, hne, hdigits⟩
  · exact ⟨0, rfl⟩
  · rw [exponent?, if_pos hmark, hsign]
    simp only [digitValues?_of_digits hne hdigits, Option.map_some]
    exact ⟨_, rfl⟩

theorem isBlank_of_mem_exponent (h : Value.isExponent cs = true) (hc : c ∈ cs) :
    isBlank c = false := by
  rcases exponent_cases h with rfl | ⟨mark, sign, ds, rfl, hmark, -, -, hdigits⟩
  · cases hc
  · rcases List.mem_cons.mp hc with rfl | hc
    · rcases hmark with rfl | rfl <;> decide
    · rcases List.mem_append.mp hc with hsign | hdigit
      · exact isBlank_of_mem_sign hsign
      · exact (of_isAsciiDigit (hdigits c hdigit)).1

theorem isBlank_of_mem_chars (h : c ∈ p.chars) : isBlank c = false := by
  rw [chars, List.mem_append] at h
  rcases h with hwhole | htail
  · exact (of_isAsciiDigit (p.whole_decimal c hwhole)).1
  unfold tail at htail
  split at htail
  · exact isBlank_of_mem_exponent p.isExponent htail
  · next ds hfraction =>
    rw [List.mem_cons, List.mem_append] at htail
    rcases htail with rfl | hdigit | hexponent
    · decide
    · exact (of_isAsciiDigit (p.fraction_decimal ds hfraction c hdigit)).1
    · exact isBlank_of_mem_exponent p.isExponent hexponent

/-- A number begins with a digit or with its point. -/
theorem exists_cons_chars (p : Parts) :
    ∃ c rest, p.chars = c :: rest ∧ (isAsciiDigit c = true ∨ c = '.') := by
  by_cases hwhole : p.whole = []
  · rcases p.digits_ne_nil with hne | ⟨ds, hds, -⟩
    · exact absurd hwhole hne
    · have hfraction : p.fraction = .some ds := hds
      exact ⟨'.', ds ++ p.exponent, by rw [chars, hwhole, tail, hfraction]; rfl, Or.inr rfl⟩
  · obtain ⟨c, rest, hcons⟩ := List.exists_cons_of_ne_nil hwhole
    refine ⟨c, rest ++ p.tail, by rw [chars, hcons, List.cons_append], Or.inl ?_⟩
    exact p.whole_decimal c (hcons ▸ List.mem_cons_self ..)

theorem spanDigits_append {ds rest : List Char} (hds : ∀ c ∈ ds, isAsciiDigit c = true)
    (hrest : ∀ c ∈ rest.head?, (c == '_' || isDecimal c) = false) :
    spanDigits (ds ++ rest) = (ds, rest) := by
  have hdigits : ∀ c ∈ ds, (c == '_' || isDecimal c) = true := by
    intro c hc
    rw [isDecimal_of_isAsciiDigit (hds c hc), Bool.or_true]
  obtain ⟨htake, hdrop⟩ := takeWhile_dropWhile_append hdigits hrest
  rw [spanDigits, List.span_eq_takeWhile_dropWhile, htake, hdrop]

/-- No digit goes on where an exponent begins. -/
theorem head_exponent (h : Value.isExponent cs = true) :
    ∀ c ∈ cs.head?, (c == '_' || isDecimal c) = false := by
  rcases exponent_cases h with rfl | ⟨mark, sign, ds, rfl, hmark, -⟩
  · simp
  · intro c hc
    cases hc
    rcases hmark with rfl | rfl <;> decide

theorem isAsciiDigit_of_stop {c : Char} (h : (c == '_' || isDecimal c) = false) :
    isAsciiDigit c = false := by
  cases hc : isAsciiDigit c with
  | false => rfl
  | true => simp [isDecimal_of_isAsciiDigit hc] at h

theorem exists_optionalDigits {ds : List Char} (hds : ∀ c ∈ ds, isAsciiDigit c = true) :
    ∃ values, optionalDigits? ds = some values ∧ values.length = ds.length := by
  cases ds with
  | nil => exact ⟨[], rfl, rfl⟩
  | cons c rest =>
    refine ⟨(c :: rest).map fun c => c.toNat - 48, ?_, List.length_map ..⟩
    exact digitValues?_of_digits (List.cons_ne_nil c rest) hds

theorem isNumericForm_chars (p : Parts) : Value.isNumericForm p.chars = true := by
  have hne := p.digits_ne_nil
  unfold chars tail Value.isNumericForm
  cases hfraction : p.fraction with
  | none =>
    have hwhole : p.whole ≠ [] := by simpa [hfraction] using hne
    have hstop : ∀ c ∈ p.exponent.head?, isAsciiDigit c = false := fun c hc =>
      isAsciiDigit_of_stop (head_exponent p.isExponent c hc)
    obtain ⟨htake, hdrop⟩ := takeWhile_dropWhile_append p.whole_decimal hstop
    have hexponent := p.isExponent
    simp only [htake, hdrop]
    rcases exponent_cases hexponent with hnil | ⟨mark, sign, ds, hcons, hmark, -⟩
    · rw [hnil] at hexponent ⊢
      simp [hwhole, hexponent]
    · rw [hcons] at hexponent ⊢
      rcases hmark with rfl | rfl <;> simp [hwhole, hexponent]
  | some ds =>
    have hpoint : ∀ c ∈ ('.' :: (ds ++ p.exponent)).head?, isAsciiDigit c = false := by
      intro c hc
      cases hc
      decide
    have hstop : ∀ c ∈ p.exponent.head?, isAsciiDigit c = false := fun c hc =>
      isAsciiDigit_of_stop (head_exponent p.isExponent c hc)
    obtain ⟨htake, hdrop⟩ := takeWhile_dropWhile_append p.whole_decimal hpoint
    obtain ⟨htakeMore, hdropMore⟩ :=
      takeWhile_dropWhile_append (p.fraction_decimal ds hfraction) hstop
    have hsome : p.whole ≠ [] ∨ ds ≠ [] := by simpa [hfraction] using hne
    simp only [htake, hdrop, htakeMore, hdropMore, p.isExponent]
    simpa using hsome

theorem exists_decimalForm (p : Parts) (negative : Bool) :
    ∃ d, decimalForm? negative p.chars = some d := by
  obtain ⟨e, he⟩ := exists_exponent p.isExponent
  obtain ⟨a, ha, halength⟩ := exists_optionalDigits p.whole_decimal
  have hne := p.digits_ne_nil
  unfold chars tail decimalForm?
  cases hfraction : p.fraction with
  | none =>
    have hwhole : p.whole ≠ [] := by simpa [hfraction] using hne
    have ha' : a ≠ [] := by
      rintro rfl
      exact hwhole (List.length_eq_zero_iff.mp halength.symm)
    simp only [spanDigits_append p.whole_decimal (head_exponent p.isExponent), ha]
    -- the first character of an exponent is no point
    rcases exponent_cases p.isExponent with hnil | ⟨mark, sign, ds, hcons, hmark, -⟩
    · rw [hnil] at he ⊢
      simp [optionalDigits?, he, ha']
    · rw [hcons] at he ⊢
      rcases hmark with rfl | rfl <;> simp [optionalDigits?, he, ha']
  | some ds =>
    have hds := p.fraction_decimal ds hfraction
    obtain ⟨b, hb, hblength⟩ := exists_optionalDigits hds
    have hpoint : ∀ c ∈ ('.' :: (ds ++ p.exponent)).head?, (c == '_' || isDecimal c) = false := by
      intro c hc
      cases hc
      decide
    have hsome : (a.isEmpty && b.isEmpty) = false := by
      rw [Bool.and_eq_false_iff, List.isEmpty_eq_false_iff, List.isEmpty_eq_false_iff]
      rcases hne with hwhole | ⟨fraction, hmem, hfrac⟩
      · left
        rintro rfl
        exact hwhole (List.length_eq_zero_iff.mp halength.symm)
      · right
        rw [hfraction] at hmem
        cases hmem
        rintro rfl
        exact hfrac (List.length_eq_zero_iff.mp hblength.symm)
    simp only [spanDigits_append p.whole_decimal hpoint,
      spanDigits_append hds (head_exponent p.isExponent), ha, hb, he, hsome]
    simp

end Parts

/-- A number in plain digits as it is written, with a sign in front if there is one and plain blanks
around. -/
structure DecimalNumeral where
  before : List Char
  sign : Sign
  parts : Parts
  after : List Char
  before_blank : ∀ c ∈ before, isAsciiBlank c = true
  after_blank : ∀ c ∈ after, isAsciiBlank c = true

namespace DecimalNumeral

variable (n : DecimalNumeral)

def text : String := String.ofList (n.before ++ (n.sign.chars ++ n.parts.chars ++ n.after))

theorem trim_text : trimChars n.text.toList = n.sign.chars ++ n.parts.chars ∧
    Value.trimAscii n.text.toList = n.sign.chars ++ n.parts.chars := by
  rw [text, String.toList_ofList]
  refine trimChars_between n.before_blank (fun c hc => ?_) n.after_blank
  rcases List.mem_append.mp hc with hsign | hpart
  · exact isBlank_of_mem_sign hsign
  · exact Parts.isBlank_of_mem_chars hpart

theorem takeSign_text :
    takeSign (n.sign.chars ++ n.parts.chars) = (n.sign == .minus, n.parts.chars) := by
  obtain ⟨c, rest, hcons, hc⟩ := n.parts.exists_cons_chars
  have hnoSign : c ≠ '-' ∧ c ≠ '+' := by
    rcases hc with hdigit | rfl
    · exact ⟨(of_isAsciiDigit hdigit).2.1, (of_isAsciiDigit hdigit).2.2.1⟩
    · decide
  rw [hcons]
  exact takeSign_chars n.sign rest hnoSign.1 hnoSign.2

theorem isNumericText_text : Value.isNumericText n.text = true := by
  rw [Value.isNumericText, n.trim_text.2, n.takeSign_text]
  exact n.parts.isNumericForm_chars

/-- A number in plain digits can be read as a double. -/
theorem exists_double : ∃ d, double? n.text = some d := by
  obtain ⟨d, hd⟩ := n.parts.exists_decimalForm (n.sign == .minus)
  refine ⟨d, ?_⟩
  unfold double?
  rw [n.trim_text.1, n.takeSign_text]
  obtain ⟨c, rest, hcons, hc⟩ := n.parts.exists_cons_chars
  -- the first character tells it from the names of infinity and of what is not a number
  have hplain : c ≠ 'i' ∧ c ≠ 'n' ∧ isAsciiUpper c = false := by
    rcases hc with hdigit | rfl
    · have hrange : 48 ≤ c.toNat ∧ c.toNat ≤ 57 := by simpa [isAsciiDigit] using hdigit
      refine ⟨ne_of_isAsciiDigit hdigit rfl, ne_of_isAsciiDigit hdigit rfl, ?_⟩
      simp only [isAsciiUpper, Bool.and_eq_false_iff, decide_eq_false_iff_not]
      omega
    · decide
  rw [hcons] at hd ⊢
  simp [hplain, hd]

end DecimalNumeral

/-- What counts as numeric is a number in plain digits. -/
theorem isNumericText_iff {s : String} :
    Value.isNumericText s = true ↔ ∃ n : DecimalNumeral, n.text = s := by
  constructor
  · intro h
    obtain ⟨before, after, haround, hbefore, hafter⟩ := exists_around isAsciiBlank s.toList
    obtain ⟨sign, hsign⟩ := exists_sign (Value.trimAscii s.toList)
    obtain ⟨p, hp⟩ := exists_parts h
    refine ⟨⟨before, sign, p, after, hbefore, hafter⟩, ?_⟩
    rw [DecimalNumeral.text, hp, ← hsign, ← String.toList_inj, String.toList_ofList]
    exact haround.symm
  · rintro ⟨n, rfl⟩
    exact n.isNumericText_text

end Number

namespace Value

/-- A numeric text denotes a number. -/
theorem exists_numberOfText {s : String} (h : isNumericText s = true) :
    ∃ n, numberOfText s = .ok n := by
  obtain ⟨n, rfl⟩ := isNumericText_iff.mp h
  obtain ⟨d, hd⟩ := n.exists_double
  unfold numberOfText
  cases hwhole : wholeNumber? n.text with
  | some i => exact ⟨.whole i, rfl⟩
  | none => exact ⟨.double d, by rw [hd]⟩

/-- A value that is a whole number, of any size, or a numeral for one that can be read whole. -/
inductive Denotes : Value → Int → Prop
  | int (i : Int) : Denotes (.int i) i
  | text (w : Numeral) (short : w.digits.length ≤ maxDigits) : Denotes (.text w.text) w.value

theorem numberOfText_numeral {w : Numeral} (h : w.digits.length ≤ maxDigits) :
    numberOfText w.text = .ok (.whole w.value) := by
  have hread : readWhole w.text = .ok w.value := by
    rw [w.readWhole_text, if_neg (Nat.not_lt.mpr h)]
  simp only [numberOfText, wholeNumber?, hread, Except.toOption]

theorem toNumber_text (s : String) : (Value.text s).toNumber = numberOfText s := rfl

theorem Denotes.toNumber {v : Value} {i : Int} (h : Denotes v i) : v.toNumber = .ok (.whole i) := by
  cases h with
  | int => rfl
  | text w hshort =>
    rw [toNumber_text]
    exact numberOfText_numeral hshort

theorem Denotes.isNumeric {v : Value} {i : Int} (h : Denotes v i) : v.isNumeric = true := by
  cases h with
  | int => rfl
  | text w hshort => exact w.isNumericText_text

end Value

end PayloadCheck
