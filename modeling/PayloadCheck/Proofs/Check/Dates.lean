import PayloadCheck.Proofs.Check.Locality
import PayloadCheck.Proofs.Rule.Writing
import PayloadCheck.Proofs.Time.Calendar
import PayloadCheck.Proofs.Time.Iso

/-!
# Dates in the standard notation are ordered by their instants

A day, a moment without an offset and a moment with one are read back from their texts, the last one
in universal time. So `before` and `after` compare the instants of two texts, whatever offsets these
are written with (`iso_texts_order_by_instant`).
-/

namespace PayloadCheck.Check

open PayloadCheck.Number PayloadCheck.Presence PayloadCheck.Rule PayloadCheck.Text
open PayloadCheck.Time

/-! ### Texts that are read as they stand -/

theorem mem_lowerAfter {c : Char} (hdigit : isAsciiDigit c = true) {cs : List Char} (h : c ∈ cs)
    (before : List Char) : c ∈ lowerAfter before cs := by
  induction cs generalizing before with
  | nil => cases h
  | cons d rest ih =>
    rw [lowerAfter, List.mem_append]
    rcases List.mem_cons.mp h with rfl | h
    · have hrange : 48 ≤ c.toNat ∧ c.toNat ≤ 57 := by simpa [isAsciiDigit] using hdigit
      have hsigma : c.toNat ≠ 0x3A3 := by omega
      have hlower : lowerChars c = [c] := by
        have hascii : c.toNat < 128 := by omega
        have hupper : ¬ (65 ≤ c.toNat ∧ c.toNat ≤ 90) := by omega
        simp only [lowerChars, hascii, hupper, if_true, if_false]
      refine Or.inl ?_
      rw [if_neg hsigma, hlower]
      exact List.mem_singleton_self c
    · exact Or.inr (ih h _)

theorem dropWhile_isBlank {cs : List Char} (h : ∀ c, cs.head? = some c → isBlank c = false) :
    cs.dropWhile isBlank = cs := by
  cases cs with
  | nil => rfl
  | cons c rest =>
    apply List.dropWhile_cons_of_neg
    simp [h c rfl]

/-- A text that is no word and has nothing to be trimmed. -/
structure IsNoted (cs : List Char) : Prop where
  digit : ∃ c ∈ cs, isAsciiDigit c = true
  first : ∀ c, cs.head? = some c → isBlank c = false
  last : ∀ c, cs.getLast? = some c → isBlank c = false

namespace IsNoted

variable {cs : List Char} (h : IsNoted cs)
include h

theorem trimChars_eq : trimChars cs = cs := by
  have hlast : ∀ c, cs.reverse.head? = some c → isBlank c = false := by
    intro c hc
    rw [List.head?_reverse] at hc
    exact h.last c hc
  rw [trimChars, dropWhile_isBlank h.first, dropEndWhile, dropWhile_isBlank hlast,
    List.reverse_reverse]

theorem tellsByClock_eq : tellsByClock (.text (String.ofList cs)) = false := by
  obtain ⟨c, hc, hdigit⟩ := h.digit
  have hmem : c ∈ (lower (String.ofList cs)).toList := by
    rw [lower, String.toList_ofList, String.toList_ofList]
    exact mem_lowerAfter hdigit hc []
  have hwords : (["now", "today", "tomorrow", "yesterday"].all fun word =>
      word.toList.all fun d => !isAsciiDigit d) = true := by decide
  rw [tellsByClock, String.toList_ofList, h.trimChars_eq, List.contains_eq_mem]
  simp only [decide_eq_false_iff_not]
  intro hword
  have hnot := List.all_eq_true.mp (List.all_eq_true.mp hwords _ hword) c hmem
  rw [hdigit] at hnot
  exact Bool.noConfusion hnot

theorem readDate_eq (now : Moment) :
    readDate now (.text (String.ofList cs)) = notedDate cs := by
  have hword := h.tellsByClock_eq
  have hne : cs.isEmpty = false := by
    obtain ⟨c, hc, -⟩ := h.digit
    cases cs with
    | nil => cases hc
    | cons d rest => rfl
  rw [tellsByClock, String.toList_ofList, h.trimChars_eq] at hword
  simp [readDate, h.trimChars_eq, hne, wordDate?_eq_none hword]

end IsNoted

/-! ### Texts in the standard notation -/

theorem isNoted_of_edges {cs : List Char} (hfirst : ∃ c rest, cs = c :: rest ∧ isAsciiDigit c = true)
    (hlast : Moment.EndsInDigit cs) : IsNoted cs := by
  obtain ⟨c, rest, rfl, hdigit⟩ := hfirst
  obtain ⟨d, hd, hdigit'⟩ := hlast
  refine ⟨⟨c, List.mem_cons_self .., hdigit⟩, ?_, ?_⟩
  · rintro _ ⟨⟩
    exact isBlank_of_isAsciiDigit hdigit
  · intro d' hd'
    rw [hd] at hd'
    cases hd'
    exact isBlank_of_isAsciiDigit hdigit'

theorem exists_cons_dateChars (d : Date) (rest : List Char) :
    ∃ c more, Moment.dateChars d ++ rest = c :: more ∧ isAsciiDigit c = true := by
  obtain ⟨c, more, hcons, hdigit⟩ := exists_head_padded 3 d.year
  exact ⟨c, _, by rw [Moment.dateChars, hcons]; rfl, hdigit⟩

theorem exists_cons_isoChars (separator : Char) (m : Moment) :
    ∃ c more, m.isoChars separator = c :: more ∧ isAsciiDigit c = true := by
  unfold Moment.isoChars
  rw [List.append_assoc]
  exact exists_cons_dateChars _ _

theorem readDate_isoChars {m : Moment} (h : m.isValid = true) (separator : Char) (now : Moment) :
    readDate now (.text (String.ofList (m.isoChars separator))) = some <$> m.toUniversal := by
  have hnoted : IsNoted (m.isoChars separator) :=
    isNoted_of_edges (exists_cons_isoChars separator m) (.isoChars separator m)
  rw [hnoted.readDate_eq, notedDate, readIso?_isoChars h]

theorem readDate_isoText {d : Date} (h : d.isValid = true) (now : Moment) :
    readDate now (.text d.isoText) = .ok (some (.midnight d)) := by
  have hnoted : IsNoted (Moment.dateChars d) := by
    refine isNoted_of_edges ?_ (.dateChars d)
    simpa using exists_cons_dateChars d []
  rw [Date.isoText, hnoted.readDate_eq, notedDate, readIso?_dateChars h]
  rfl

/-- A moment with an offset is read in universal time. -/
theorem toUniversal_of_offset {m : Moment} {offset : Int} (hoffset : m.offset = some offset)
    (hin : Moment.InYears m.instant) : ∃ u, m.toUniversal = .ok u ∧ u.isValid = true ∧
      u.offset = none ∧ u.ticks = m.ticks - offset := by
  obtain ⟨u, hu, hvalid, hnone, hticks⟩ := Moment.ticks_ofTicks? hin
  refine ⟨u, ?_, hvalid, hnone, ?_⟩
  · simp only [Moment.toUniversal, hoffset, hu]
  · rw [hticks, Moment.instant, hoffset]
    rfl

/-! ### Texts that are compared -/

/-- The texts of days and of moments, these with a character between day and time of day. -/
inductive Stamp where
  | day (d : Date)
  | moment (separator : Char) (m : Moment)

namespace Stamp

/-- What is written. -/
def text : Stamp → String
  | day d => d.isoText
  | moment separator m => String.ofList (m.isoChars separator)

/-- Microseconds in universal time. -/
def instant : Stamp → Int
  | day d => (Moment.midnight d).instant
  | moment _ m => m.instant

/-- The day or the moment exists, and lies in the years 1 to 9999 in universal time. -/
def Exists : Stamp → Prop
  | day d => d.isValid = true
  | moment separator m => (separator = 'T' ∨ separator = ' ') ∧ m.isValid = true ∧
      (m.offset.isSome = true → Moment.InYears m.instant)

theorem readDate_text {s : Stamp} (h : s.Exists) (now : Moment) :
    ∃ u, readDate now (.text s.text) = .ok (some u) ∧ u.ticks = s.instant := by
  cases s with
  | day d =>
    refine ⟨.midnight d, readDate_isoText h now, ?_⟩
    simp [instant, Moment.instant, Moment.midnight]
  | moment separator m =>
    obtain ⟨-, hvalid, hin⟩ := h
    have hread : readDate now (.text (text (.moment separator m))) = some <$> m.toUniversal :=
      readDate_isoChars hvalid separator now
    cases hoffset : m.offset with
    | none =>
      refine ⟨m, ?_, ?_⟩
      · rw [hread, Moment.toUniversal, hoffset]
        rfl
      · simp [instant, Moment.instant, hoffset]
    | some offset =>
      obtain ⟨u, hu, -, -, hticks⟩ := toUniversal_of_offset hoffset (hin (by rw [hoffset]; rfl))
      refine ⟨u, ?_, ?_⟩
      · rw [hread, hu]
        rfl
      · simp [instant, Moment.instant, hoffset, hticks]

/-- A date may stand in a token as it is. -/
theorem writesParameters {s : Stamp} (h : s.Exists) {name : String}
    (hname : lower (trim name) ≠ "regex") : WritesParameters name [s.text] s.text := by
  have hmark : ∀ c, isAsciiDigit c = true ∨ c ∈ isoMarks →
      c ≠ ',' ∧ Row.isLineEnd c = false := by
    rintro c (hdigit | hmem)
    · simp [Row.isLineEnd, ne_of_isAsciiDigit hdigit (m := ',') rfl,
        ne_of_isAsciiDigit hdigit (m := '\n') rfl, ne_of_isAsciiDigit hdigit (m := '\r') rfl]
    · simp only [isoMarks, List.mem_cons, List.not_mem_nil, or_false] at hmem
      rcases hmem with rfl | rfl | rfl | rfl <;> decide
  have hchars : (∀ c ∈ s.text.toList, c ≠ ',' ∧ Row.isLineEnd c = false) ∧
      (∃ c rest, s.text.toList = c :: rest ∧ isAsciiDigit c = true) ∧ s.text.length ≤ 42 := by
    rw [← String.length_toList]
    cases s with
    | day d =>
      simp only [text, Date.isoText, String.toList_ofList]
      refine ⟨fun c hc => hmark c ?_, ?_, ?_⟩
      · refine (Moment.mem_dateChars hc).imp_right ?_
        rintro rfl
        decide
      · simpa using exists_cons_dateChars d []
      · rw [Moment.length_dateChars]
        decide
    | moment separator m =>
      simp only [text, String.toList_ofList]
      refine ⟨fun c hc => ?_, exists_cons_isoChars separator m, Moment.length_isoChars_le _ m⟩
      rcases Moment.mem_isoChars hc with rfl | hmem
      · rcases h.1 with rfl | rfl <;> decide
      · exact hmark c hmem
  obtain ⟨hplain, ⟨c, rest, hcons, hdigit⟩, hlength⟩ := hchars
  have hbare : Row.IsBare s.text.toList := by
    refine ⟨hplain, ?_⟩
    rw [hcons]
    rintro ⟨⟩
    exact Bool.noConfusion hdigit
  refine .row hname ⟨.last (.bare hbare), ?_⟩ ?_
  · rw [hcons]
    exact List.cons_ne_nil c rest
  · simp only [List.mem_singleton, forall_eq]
    exact Nat.le_trans hlength (by decide)

end Stamp

/-! ### Comparing -/

/-- What a written rule says of a value, whatever was asked before. -/
def Engine.Judges (e : Engine) (verifier : Option Verifier) (field : String) (v : Value)
    (token : String) (passes : Bool) : Prop :=
  ∃ rule, readToken token = .ok (some rule) ∧
    ∀ j, e.dispatch verifier field v rule j = (.ok passes, j)

theorem comparesDates_texts {a b : Stamp} (ha : a.Exists) (hb : b.Exists) (c : Context)
    (holds : Int → Int → Bool) :
    comparesDates c (.text a.text) b.text holds = .ok (holds a.instant b.instant) := by
  obtain ⟨u, hu, hticks⟩ := a.readDate_text ha c.now
  obtain ⟨w, hw, hticks'⟩ := b.readDate_text hb c.now
  have htarget : referenceDate c b.text = .ok (some w) := by
    rw [referenceDate, hw]
    rfl
  rw [comparesDates, hu, ← hticks, ← hticks']
  simp only [htarget, bind, Except.bind]
  rfl

section Rules

variable {resolves : List Char → Bool}

theorem find?_builtin_before : (builtinFor resolves).find? "Before" =
    some (.deciding "before" 1 fun c _ v ps => do
      comparesDates c v (← parameter ps 0) fun a b => a < b) := by
  have hkey : Rule.key "Before" = Rule.key "before" :=
    (key_of_chars (by decide) : _ = "before").trans (key_of_chars (by decide)).symm
  refine find?_builtinFor_of_mem ?_ hkey
  simp [builtinChecks, dateChecks]

theorem find?_builtin_after : (builtinFor resolves).find? "After" =
    some (.deciding "after" 1 fun c _ v ps => do
      comparesDates c v (← parameter ps 0) fun a b => b < a) := by
  have hkey : Rule.key "After" = Rule.key "after" :=
    (key_of_chars (by decide) : _ = "after").trans (key_of_chars (by decide)).symm
  refine find?_builtinFor_of_mem ?_ hkey
  simp [builtinChecks, dateChecks]

/-- A check that compares dates says how the instants of the value and of the parameter compare. -/
theorem dispatch_comparing {e : Engine} {name called : String} {holds : Int → Int → Bool}
    (hfind : e.catalogue.find? name = some (.deciding called 1 fun c _ v ps => do
      comparesDates c v (← parameter ps 0) holds)) {a b : Stamp} (ha : a.Exists) (hb : b.Exists)
    (verifier : Option Verifier) (field : String) (j : Journal) :
    e.dispatch verifier field (.text a.text) ⟨name, [b.text]⟩ j =
      (.ok (holds a.instant b.instant), j) := by
  have hfind' : e.catalogue.find? (Spec.mk name [b.text]).name = _ := hfind
  rw [Engine.dispatch_deciding hfind' (Nat.le_refl 1)]
  simp only [parameter, List.getElem?_cons_zero, bind, Except.bind, comparesDates_texts ha hb]

theorem Engine.Judges.passes_eq {e : Engine} {verifier : Option Verifier} {field : String}
    {v : Value} {token : String} {p q : Bool} (hp : e.Judges verifier field v token p)
    (hq : e.Judges verifier field v token q) : p = q := by
  obtain ⟨rule, hrule, hdispatch⟩ := hp
  obtain ⟨rule', hrule', hdispatch'⟩ := hq
  rw [hrule] at hrule'
  cases hrule'
  have hsame := (hdispatch {}).symm.trans (hdispatch' {})
  exact Except.ok.inj (congrArg Prod.fst hsame)

theorem judges_comparing {e : Engine} (hcatalogue : e.catalogue = builtinFor resolves)
    (name : String) {called : String} {holds : Int → Int → Bool}
    (hfind : (builtinFor resolves).find? (identifier name) =
      some (.deciding called 1 fun c _ v ps => do comparesDates c v (← parameter ps 0) holds))
    (hname : ':' ∉ name.toList ∧ identifier name ≠ "" ∧ lower (trim name) ≠ "regex") {a b : Stamp}
    (ha : a.Exists) (hb : b.Exists) (verifier : Option Verifier) (field : String) :
    e.Judges verifier field (.text a.text) (name ++ ":" ++ b.text)
      (holds a.instant b.instant) := by
  obtain ⟨hcolon, hid, hregex⟩ := hname
  rw [← hcatalogue] at hfind
  have hread := readToken_of_writes hcolon hid (b.writesParameters hb hregex)
  exact ⟨⟨identifier name, [b.text]⟩, hread, dispatch_comparing hfind ha hb verifier field⟩

end Rules

/-- **Dates in the standard notation are ordered by their instants.** What is written of a moment or
    of a day is read back, with an offset in universal time; and `before` and `after` compare two
    such texts as their instants compare, whatever offsets they are written with. -/
theorem iso_texts_order_by_instant (resolves : List Char → Bool) :
    (∀ m : Moment, m.isValid = true → m.offset = none → ∀ separator, separator = 'T' ∨ separator = ' ' →
      ∀ now, readDate now (.text (String.ofList (m.isoChars separator))) = .ok (some m)) ∧
    (∀ d : Date, d.isValid = true → ∀ now, readDate now (.date d) = .ok (some (.midnight d)) ∧
      readDate now (.text d.isoText) = .ok (some (.midnight d))) ∧
    (∀ (m : Moment) (offset : Int), m.isValid = true → m.offset = some offset →
      Moment.InYears (m.ticks - offset) → ∀ separator, separator = 'T' ∨ separator = ' ' → ∀ now,
        ∃ u, readDate now (.text (String.ofList (m.isoChars separator))) = .ok (some u) ∧
          u.isValid = true ∧ u.offset = none ∧ u.ticks = m.ticks - offset) ∧
    ∀ (e : Engine), e.catalogue = builtinFor resolves → ∀ (a b : Stamp), a.Exists → b.Exists →
      ∀ verifier field,
        e.Judges verifier field (.text a.text) ("before:" ++ b.text) (a.instant < b.instant) ∧
        e.Judges verifier field (.text a.text) ("after:" ++ b.text) (b.instant < a.instant) ∧
        (e.Judges verifier field (.text a.text) ("before:" ++ b.text) false ∧
          e.Judges verifier field (.text a.text) ("after:" ++ b.text) false ↔
            a.instant = b.instant) := by
  refine ⟨?naive, ?day, ?aware, ?rules⟩
  case naive =>
    intro m hvalid hoffset separator _ now
    rw [readDate_isoChars hvalid, Moment.toUniversal, hoffset]
    rfl
  case day =>
    intro d hvalid now
    exact ⟨rfl, readDate_isoText hvalid now⟩
  case aware =>
    intro m offset hvalid hoffset hin separator _ now
    have hinstant : m.instant = m.ticks - offset := by rw [Moment.instant, hoffset]; rfl
    rw [← hinstant] at hin
    obtain ⟨u, hu, huniversal⟩ := toUniversal_of_offset hoffset hin
    refine ⟨u, ?_, huniversal⟩
    rw [readDate_isoChars hvalid, hu]
    rfl
  case rules =>
    intro e hcatalogue a b ha hb verifier field
    have hbefore := judges_comparing hcatalogue "before" find?_builtin_before (by decide)
      ha hb verifier field
    have hafter := judges_comparing hcatalogue "after" find?_builtin_after (by decide)
      ha hb verifier field
    refine ⟨hbefore, hafter, ?_, ?_⟩
    · rintro ⟨hbefore', hafter'⟩
      have hnot : ¬ a.instant < b.instant := of_decide_eq_false (hbefore.passes_eq hbefore')
      have hnot' : ¬ b.instant < a.instant := of_decide_eq_false (hafter.passes_eq hafter')
      omega
    · intro heq
      rw [heq, decide_eq_false (Int.lt_irrefl _)] at hbefore hafter
      exact ⟨hbefore, hafter⟩

/-- Half past midnight one hour east is half past eleven on the leap day before, and earlier than the
same clock reading without an offset. -/
theorem iso_texts_order_by_instant_east :
    let e : Engine := ⟨"adhoc", [], builtin, .ofPayload [], ⟨[], []⟩, default⟩
    let v : Value := .text "2024-03-01T00:30:00+01:00"
    readDate default v = .ok (some ⟨⟨2024, 2, 29⟩, 23, 30, 0, 0, none⟩) ∧
      e.Judges none "at" v "before:2024-02-29 23:30:00" false ∧
      e.Judges none "at" v "after:2024-02-29 23:30:00" false ∧
      e.Judges none "at" v "before:2024-03-01T00:30:00" true := by
  -- kept closed, for its keys are computed by the tables of all letters
  generalize hcatalogue : builtin = catalogue
  intro e v
  let east : Moment := ⟨⟨2024, 3, 1⟩, 0, 30, 0, 0, some 3600000000⟩
  let before : Moment := ⟨⟨2024, 2, 29⟩, 23, 30, 0, 0, none⟩
  let after : Moment := ⟨⟨2024, 3, 1⟩, 0, 30, 0, 0, none⟩
  have hin : Moment.InYears (east.ticks - 3600000000) := by
    unfold Moment.InYears
    decide
  have heast : Stamp.Exists (.moment 'T' east) := ⟨Or.inl rfl, by decide, fun _ => hin⟩
  have hbefore : Stamp.Exists (.moment ' ' before) := ⟨Or.inr rfl, by decide, nofun⟩
  have hafter : Stamp.Exists (.moment 'T' after) := ⟨Or.inl rfl, by decide, nofun⟩
  obtain ⟨-, -, haware, hrules⟩ := iso_texts_order_by_instant Network.isLiteralHost
  obtain ⟨u, hread, hvalid, hnone, hticks⟩ :=
    haware east 3600000000 (by decide) rfl hin 'T' (Or.inl rfl) default
  have hu : u = before :=
    Moment.eq_of_ticks_eq ⟨hvalid, hnone⟩ (by decide) (hticks.trans (by decide))
  have hjudges := hrules e hcatalogue.symm (.moment 'T' east)
  obtain ⟨-, -, hsame⟩ := hjudges (.moment ' ' before) heast hbefore none "at"
  obtain ⟨hearlier, -, -⟩ := hjudges (.moment 'T' after) heast hafter none "at"
  obtain ⟨hnotBefore, hnotAfter⟩ := hsame.mpr (by decide)
  have heastText : String.ofList (east.isoChars 'T') = "2024-03-01T00:30:00+01:00" := by decide
  have hbeforeText : Stamp.text (.moment ' ' before) = "2024-02-29 23:30:00" := by decide
  have hafterText : Stamp.text (.moment 'T' after) = "2024-03-01T00:30:00" := by decide
  have hlt : decide (Stamp.instant (.moment 'T' east) < Stamp.instant (.moment 'T' after)) = true := by
    decide
  rw [Stamp.text, heastText, hbeforeText] at hnotBefore hnotAfter
  rw [Stamp.text, heastText, hafterText, hlt] at hearlier
  rw [heastText, hu] at hread
  exact ⟨hread, hnotBefore, hnotAfter, hearlier⟩

end PayloadCheck.Check
