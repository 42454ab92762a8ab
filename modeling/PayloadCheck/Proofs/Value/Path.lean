import Mathlib.Data.List.TakeWhile
import PayloadCheck.Proofs.Value.Faults

/-!
# Where paths lead

A path is followed segment by segment (`followAll_append`), and what it leads to is a part of the
value that it starts from. It meets a fault iff it comes to a list or a tuple with a segment that is
written like a place and is none (`get_faults_iff`): one with a second minus sign, with a digit of
no decimal system, or with more digits than a whole number may have. Where no key holds a point,
following a path is following its halves one after the other (`get_joined`).
-/

namespace PayloadCheck

open PayloadCheck.Text PayloadCheck.Number

/-! ## Segments as places -/

/-- Characters that are no digits: the blank ones, the signs and the underscore. -/
def gapCodes : List Nat :=
  [9, 10, 11, 12, 13, 28, 29, 30, 31, 32, 43, 45, 95, 0x85, 0xA0, 0x1680, 0x2000, 0x2001, 0x2002,
   0x2003, 0x2004, 0x2005, 0x2006, 0x2007, 0x2008, 0x2009, 0x200A, 0x2028, 0x2029, 0x202F, 0x205F,
   0x3000]

theorem not_isDigit_of_mem : ∀ n ∈ gapCodes, isDigit (Char.ofNat n) = false := by
  unfold isDigit isDecimal decimalValue? decimalTable superscriptTable
  simp only [CodeSet.read, List.flatMap_cons, List.flatMap_nil]
  -- the characters of a written table are put in first: to decode them is what would take long
  repeat rw [String.toList_ofList]
  decide +kernel

theorem isBlank_of_isDigit {c : Char} (h : isDigit c = true) : isBlank c = false := by
  by_contra hblank
  have hmem : c.toNat ∈ gapCodes := by
    simp only [isBlank, Bool.not_eq_false, Bool.or_eq_true, Bool.and_eq_true, decide_eq_true_eq,
      beq_iff_eq] at hblank
    simp only [gapCodes, List.mem_cons, List.not_mem_nil, or_false]
    omega
  have hdigit := not_isDigit_of_mem c.toNat hmem
  rw [Char.ofNat_toNat, h] at hdigit
  cases hdigit

theorem ne_of_isDigit {c : Char} (h : isDigit c = true) : c ≠ '-' ∧ c ≠ '+' ∧ c ≠ '_' := by
  have hne : ∀ n ∈ gapCodes, c ≠ Char.ofNat n := by
    rintro n hn rfl
    rw [not_isDigit_of_mem n hn] at h
    cases h
  exact ⟨hne 45 (by decide), hne 43 (by decide), hne 95 (by decide)⟩

theorem digitValues?_cons {c : Char} {rest : List Char} (hne : rest ≠ []) (h : '_' ∉ rest) :
    digitValues? (c :: rest) =
      (decimalValue? c).bind fun d => (digitValues? rest).map (d :: ·) := by
  cases rest with
  | nil => exact absurd rfl hne
  | cons d more =>
    have hd : d ≠ '_' := fun heq => h (heq ▸ List.mem_cons_self ..)
    rw [digitValues?.eq_4 c (d :: more) (by simp) (by rintro _ heq; exact hd (List.cons.inj heq).1)]
    cases decimalValue? c <;> cases digitValues? (d :: more) <;> rfl

/-- Characters without an underscore among them are read as digits iff each of them is one. -/
theorem digitValues?_cases {cs : List Char} (hne : cs ≠ []) (h : '_' ∉ cs) :
    (digitValues? cs = none ∧ ∃ c ∈ cs, isDecimal c = false) ∨
    ∃ ds, digitValues? cs = some ds ∧ ds.length = cs.length ∧ ∀ c ∈ cs, isDecimal c = true := by
  induction cs with
  | nil => exact absurd rfl hne
  | cons c rest ih =>
    rw [List.mem_cons, not_or] at h
    by_cases hrest : rest = []
    · subst hrest
      cases hc : decimalValue? c with
      | none => simp [digitValues?, isDecimal, hc]
      | some d => simp [digitValues?, isDecimal, hc]
    · rw [digitValues?_cons hrest h.2]
      rcases ih hrest h.2 with ⟨hnone, d, hd, hbad⟩ | ⟨ds, hsome, hlength, hall⟩
      · left
        exact ⟨by cases decimalValue? c <;> simp [hnone], d, List.mem_cons_of_mem c hd, hbad⟩
      · cases hc : decimalValue? c with
        | none => simp [isDecimal, hc]
        | some d =>
          right
          refine ⟨d :: ds, by simp [hsome], by simp [hlength], ?_⟩
          rw [List.forall_mem_cons]
          exact ⟨by simp [isDecimal, hc], hall⟩

namespace Value

/-- The minus signs in front of a segment. -/
def signsOf (segment : List Char) : List Char := segment.takeWhile (· == '-')

/-- What follows the minus signs of a segment. -/
def digitsOf (segment : List Char) : List Char := segment.dropWhile (· == '-')

/-- A segment that is written like a place in a list and is none: it has a second minus sign, a
digit of no decimal system, or too many digits. -/
def Misleads (segment : String) : Prop :=
  isPlace segment.toList = true ∧
    (1 < (signsOf segment.toList).length ∨
      (∃ c ∈ digitsOf segment.toList, isDecimal c = false) ∨
      maxDigits < (digitsOf segment.toList).length)

section

variable {segment : List Char}

theorem isPlace_iff :
    isPlace segment = true ↔ digitsOf segment ≠ [] ∧ ∀ c ∈ digitsOf segment, isDigit c = true := by
  simp [isPlace, digitsOf]

theorem signsOf_append_digitsOf (segment : List Char) :
    signsOf segment ++ digitsOf segment = segment := List.takeWhile_append_dropWhile

theorem eq_of_mem_signsOf {c : Char} (h : c ∈ signsOf segment) : c = '-' := by
  simpa using List.mem_takeWhile_imp h

theorem isBlank_of_mem_place (h : isPlace segment = true) {c : Char} (hc : c ∈ segment) :
    isBlank c = false := by
  rw [← signsOf_append_digitsOf segment, List.mem_append] at hc
  rcases hc with hsign | hdigit
  · rw [eq_of_mem_signsOf hsign]
    decide
  · exact isBlank_of_isDigit ((isPlace_iff.mp h).2 c hdigit)

theorem trimChars_of_isPlace (h : isPlace segment = true) : trimChars segment = segment := by
  have hkept : ∀ cs : List Char, (∀ c ∈ cs, isBlank c = false) → cs.dropWhile isBlank = cs := by
    intro cs hcs
    cases cs with
    | nil => rfl
    | cons c rest => simp [hcs c (List.mem_cons_self ..)]
  have hforward := hkept segment fun c => isBlank_of_mem_place h
  have hbackward := hkept segment.reverse fun c hc =>
    isBlank_of_mem_place h (List.mem_reverse.mp hc)
  rw [trimChars, hforward, dropEndWhile, hbackward, List.reverse_reverse]

/-- One minus sign is taken off a place. -/
theorem takeSign_of_isPlace (h : isPlace segment = true) :
    (takeSign segment).2 = (signsOf segment).tail ++ digitsOf segment := by
  obtain ⟨hne, hdigits⟩ := isPlace_iff.mp h
  cases hsigns : signsOf segment with
  | nil =>
    have heq : digitsOf segment = segment := by
      simpa [hsigns] using signsOf_append_digitsOf segment
    obtain ⟨c, rest, hcons⟩ := List.exists_cons_of_ne_nil hne
    have hc : isDigit c = true := hdigits c (hcons ▸ List.mem_cons_self ..)
    obtain ⟨hminus, hplus, -⟩ := ne_of_isDigit hc
    rw [heq] at hcons ⊢
    rw [hcons, takeSign]
    · rfl
    · exact fun _ heq => hminus (List.cons.inj heq).1
    · exact fun _ heq => hplus (List.cons.inj heq).1
  | cons c more =>
    have hc : c = '-' := eq_of_mem_signsOf (hsigns ▸ List.mem_cons_self ..)
    have heq := signsOf_append_digitsOf segment
    rw [hsigns, hc, List.cons_append] at heq
    rw [← heq, takeSign]
    simp [heq]

theorem underscore_not_mem_place (h : isPlace segment = true) :
    '_' ∉ (signsOf segment).tail ++ digitsOf segment := by
  rw [List.mem_append]
  rintro (hsign | hdigit)
  · exact absurd (eq_of_mem_signsOf (List.mem_of_mem_tail hsign)) (by decide)
  · exact (ne_of_isDigit ((isPlace_iff.mp h).2 _ hdigit)).2.2 rfl

end

/-- A place is read as its digits are, one minus sign taken off. -/
theorem integerOf_faults_iff_of_isPlace {segment : String} (h : isPlace segment.toList = true) :
    (∃ fault, integerOf segment = .error fault) ↔
      ∀ ds, digitValues? ((signsOf segment.toList).tail ++ digitsOf segment.toList) = some ds →
        maxDigits < ds.length := by
  rw [← takeSign_of_isPlace h]
  unfold integerOf readWhole
  rw [trimChars_of_isPlace h]
  rcases takeSign segment.toList with ⟨negative, cs⟩
  cases hread : digitValues? cs with
  | none => simp [hread]
  | some ds =>
    by_cases hlong : maxDigits < ds.length
    · simp [hread, hlong]
    · simp [hread, hlong]

/-- A segment that is written like a place is read as a whole number unless it misleads. -/
theorem integerOf_faults_iff {segment : String} (h : isPlace segment.toList = true) :
    (∃ fault, integerOf segment = .error fault) ↔ Misleads segment := by
  obtain ⟨hne, hdigits⟩ := isPlace_iff.mp h
  have hplain := underscore_not_mem_place h
  have hall : (signsOf segment.toList).tail ++ digitsOf segment.toList ≠ [] := by simp [hne]
  rw [integerOf_faults_iff_of_isPlace h, Misleads, and_iff_right h]
  rcases hsigns : (signsOf segment.toList).tail with _ | ⟨c, more⟩
  · -- one sign at most: the digits decide
    have hfew : ¬ 1 < (signsOf segment.toList).length := by
      have hlength := congrArg List.length hsigns
      simp only [List.length_tail, List.length_nil] at hlength
      omega
    rw [hsigns, List.nil_append] at hplain
    rw [List.nil_append]
    rcases digitValues?_cases hne hplain with ⟨hnone, hbad⟩ | ⟨ds, hsome, hlength, hgood⟩
    · simp [hnone, hbad]
    · have hnoBad : ¬ ∃ c ∈ digitsOf segment.toList, isDecimal c = false := by
        rintro ⟨c, hc, hbad⟩
        rw [hgood c hc] at hbad
        cases hbad
      simp [hsome, hfew, hnoBad, hlength]
  · -- a second sign is no digit
    have hmany : 1 < (signsOf segment.toList).length := by
      have hlength := congrArg List.length hsigns
      simp only [List.length_tail, List.length_cons] at hlength
      omega
    have hc : c = '-' := by
      apply eq_of_mem_signsOf
      exact List.mem_of_mem_tail (hsigns ▸ List.mem_cons_self ..)
    rw [hsigns] at hall hplain
    rcases digitValues?_cases hall hplain with ⟨hnone, -⟩ | ⟨ds, -, -, hgood⟩
    · refine iff_of_true (fun ds hsome => ?_) (Or.inl hmany)
      rw [hnone] at hsome
      cases hsome
    · have hminus := hgood c (List.mem_cons_self ..)
      rw [hc] at hminus
      exact absurd hminus (by decide)

/-! ## Following segments -/

/-- The second value is the first one or lies somewhere inside it, under a key of a map or at a
place of a list or a tuple. -/
inductive Part : Value → Value → Prop
  | whole (v : Value) : Part v v
  | entry {entries : List (Value × Value)} {key w v : Value} (mem : (key, w) ∈ entries)
      (part : Part w v) : Part (map entries) v
  | listed {items : List Value} {w v : Value} (mem : w ∈ items) (part : Part w v) :
      Part (list items) v
  | tupled {items : List Value} {w v : Value} (mem : w ∈ items) (part : Part w v) :
      Part (tuple items) v

theorem Part.trans {u v w : Value} (h : Part u v) (hw : Part v w) : Part u w := by
  induction h with
  | whole => exact hw
  | entry mem _ ih => exact .entry mem (ih hw)
  | listed mem _ ih => exact .listed mem (ih hw)
  | tupled mem _ ih => exact .tupled mem (ih hw)

/-- Lists and tuples. -/
def IsSequence : Value → Prop
  | list _ | tuple _ => True
  | _ => False

variable {source v w : Value}

theorem mem_of_field? {key : String} {entries : List (Value × Value)}
    (h : field? key entries = some v) : (text key, v) ∈ entries := by
  obtain ⟨⟨k, w⟩, hmem, hfound⟩ := List.exists_of_findSome?_eq_some h
  cases k with
  | text s =>
    by_cases hs : s = key
    · subst hs
      obtain rfl : w = v := by simpa using hfound
      exact hmem
    · simp [hs] at hfound
  | _ => cases hfound

theorem mem_of_itemAt? {items : List Value} {place : Int} (h : itemAt? items place = some v) :
    v ∈ items := by
  unfold itemAt? at h
  split at h
  · exact List.mem_of_getElem? h
  · split at h
    · exact List.mem_of_getElem? h
    · cases h

/-- A place in a list or a tuple. -/
theorem follow_sequence {items : List Value} (hv : v = list items ∨ v = tuple items)
    (segment : String) : follow segment v =
      if isPlace segment.toList then
        integerOf segment >>= fun place => .ok ((itemAt? items place).getD absent)
      else .ok absent := by
  rcases hv with rfl | rfl <;> rfl

/-- One segment leads to a part of a value or nowhere. -/
theorem part_of_follow {segment : String} (h : follow segment v = .ok w) :
    w = absent ∨ Part v w := by
  have hitem : ∀ {items : List Value}, (v = list items ∨ v = tuple items) →
      w = absent ∨ w ∈ items := by
    intro items hv
    rw [follow_sequence hv] at h
    split at h
    · obtain ⟨place, -, hw⟩ := Fault.bind_eq_ok_iff.mp h
      obtain rfl := Except.ok.inj hw
      cases hfound : itemAt? items place with
      | none => exact Or.inl rfl
      | some item => exact Or.inr (mem_of_itemAt? hfound)
    · exact Or.inl (Except.ok.inj h).symm
  cases v with
  | map entries =>
    obtain rfl := Except.ok.inj h
    cases hfound : field? segment entries with
    | none => exact Or.inl rfl
    | some u => exact Or.inr (.entry (mem_of_field? hfound) (.whole u))
  | list items => exact (hitem (Or.inl rfl)).imp_right fun hmem => .listed hmem (.whole w)
  | tuple items => exact (hitem (Or.inr rfl)).imp_right fun hmem => .tupled hmem (.whole w)
  | _ => exact Or.inl (Except.ok.inj h).symm

/-- One segment is a fault iff it misleads in a list or a tuple. -/
theorem follow_faults_iff {segment : String} :
    (∃ fault, follow segment v = .error fault) ↔ v.IsSequence ∧ Misleads segment := by
  have hsequence : ∀ {items : List Value}, (v = list items ∨ v = tuple items) →
      ((∃ fault, follow segment v = .error fault) ↔ Misleads segment) := by
    intro items hv
    rw [follow_sequence hv]
    by_cases hplace : isPlace segment.toList = true
    · rw [← integerOf_faults_iff hplace, if_pos hplace]
      simp [Fault.bind_eq_error_iff]
    · simp [hplace, Misleads]
  cases v with
  | list items => simpa [IsSequence] using hsequence (Or.inl rfl)
  | tuple items => simpa [IsSequence] using hsequence (Or.inr rfl)
  | _ => simp [follow, IsSequence]

theorem follow_fault {segment : String} {fault : Fault} (h : follow segment v = .error fault) :
    ∃ detail, fault = .badValue detail := by
  have hinteger : integerOf segment = .error fault := by
    obtain ⟨hseq, hplace, -⟩ := follow_faults_iff.mp ⟨fault, h⟩
    cases v with
    | list items =>
      rw [follow_sequence (Or.inl rfl), if_pos hplace] at h
      simpa [Fault.bind_eq_error_iff] using h
    | tuple items =>
      rw [follow_sequence (Or.inr rfl), if_pos hplace] at h
      simpa [Fault.bind_eq_error_iff] using h
    | _ => cases hseq
  exact raises_integerOf segment fault hinteger

theorem followAll_absent (segments : List String) : followAll segments absent = .ok absent := by
  cases segments <;> rfl

theorem followAll_cons (segment : String) (rest : List String) (v : Value) :
    followAll (segment :: rest) v = follow segment v >>= followAll rest := by
  rw [followAll]
  refine congrArg _ (funext fun w => ?_)
  cases w with
  | absent => exact (followAll_absent rest).symm
  | _ => rfl

/-- Segments are followed one part after the other. -/
theorem followAll_append (first rest : List String) (v : Value) :
    followAll (first ++ rest) v = followAll first v >>= followAll rest := by
  induction first generalizing v with
  | nil => rfl
  | cons segment first ih =>
    rw [List.cons_append, followAll_cons, followAll_cons, bind_assoc]
    exact congrArg _ (funext ih)

theorem part_of_followAll {segments : List String} (h : followAll segments v = .ok w) :
    w = absent ∨ Part v w := by
  induction segments generalizing v with
  | nil =>
    obtain rfl := Except.ok.inj h
    exact Or.inr (.whole v)
  | cons segment rest ih =>
    rw [followAll_cons] at h
    obtain ⟨u, hu, hw⟩ := Fault.bind_eq_ok_iff.mp h
    rcases part_of_follow hu with rfl | hpart
    · rw [followAll_absent] at hw
      exact Or.inl (Except.ok.inj hw).symm
    · exact (ih hw).imp_right hpart.trans

/-- Segments meet a fault iff those before one of them lead to a list or a tuple in which that one
misleads. -/
theorem followAll_faults_iff {segments : List String} :
    (∃ fault, followAll segments v = .error fault) ↔
      ∃ before segment after w, segments = before ++ segment :: after ∧
        followAll before v = .ok w ∧ w.IsSequence ∧ Misleads segment := by
  constructor
  · induction segments generalizing v with
    | nil => rintro ⟨fault, h⟩; cases h
    | cons segment rest ih =>
      rintro ⟨fault, h⟩
      rw [followAll_cons] at h
      rcases Fault.bind_eq_error_iff.mp h with hnow | ⟨u, hu, hlater⟩
      · obtain ⟨hseq, hmisleads⟩ := follow_faults_iff.mp ⟨fault, hnow⟩
        exact ⟨[], segment, rest, v, rfl, rfl, hseq, hmisleads⟩
      · obtain ⟨before, place, after, w, rfl, hw, hfault⟩ := ih ⟨fault, hlater⟩
        refine ⟨segment :: before, place, after, w, rfl, ?_, hfault⟩
        rw [followAll_cons]
        exact Fault.bind_eq_ok_iff.mpr ⟨u, hu, hw⟩
  · rintro ⟨before, segment, after, w, rfl, hw, hseq, hmisleads⟩
    obtain ⟨fault, hfault⟩ := follow_faults_iff.mpr ⟨hseq, hmisleads⟩
    have hlater : followAll (segment :: after) w = .error fault := by
      rw [followAll_cons]
      exact Fault.bind_eq_error_iff.mpr (Or.inl hfault)
    refine ⟨fault, ?_⟩
    rw [followAll_append]
    exact Fault.bind_eq_error_iff.mpr (Or.inr ⟨w, hw, hlater⟩)

theorem followAll_fault {segments : List String} {fault : Fault}
    (h : followAll segments v = .error fault) : ∃ detail, fault = .badValue detail := by
  induction segments generalizing v with
  | nil => cases h
  | cons segment rest ih =>
    rw [followAll_cons] at h
    rcases Fault.bind_eq_error_iff.mp h with hnow | ⟨u, -, hlater⟩
    · exact follow_fault hnow
    · exact ih hlater

/-! ## Paths -/

/-- A map that has a whole path as a key. -/
def HasKey (source : Value) (path : String) : Prop :=
  ∃ entries v, source = map entries ∧ field? path entries = some v

theorem get_cases (source : Value) (path : String) :
    (∃ entries v, source = map entries ∧ field? path entries = some v ∧ source.get path = .ok v) ∨
    (¬ source.HasKey path ∧ source.get path = followAll (split '.' path) source) := by
  have hother : (∀ entries, source ≠ map entries) →
      ¬ source.HasKey path ∧ source.get path = followAll (split '.' path) source := by
    intro hne
    refine ⟨fun ⟨entries, _, hmap, _⟩ => hne entries hmap, ?_⟩
    unfold Value.get
    split
    · exact absurd rfl (hne _)
    · rfl
  cases source with
  | map entries =>
    cases hfound : field? path entries with
    | some v =>
      left
      exact ⟨entries, v, rfl, hfound, by simp only [Value.get, hfound]⟩
    | none =>
      right
      refine ⟨?_, by simp only [Value.get, hfound]⟩
      rintro ⟨others, v, hmap, hsome⟩
      cases hmap
      rw [hfound] at hsome
      cases hsome
  | _ => exact Or.inr (hother fun entries h => by cases h)

/-- A path comes to a list or a tuple with a segment that misleads there, before it can be found as
a key. -/
def Stumbles (source : Value) (path : String) : Prop :=
  ¬ source.HasKey path ∧
    ∃ before segment after v, split '.' path = before ++ segment :: after ∧
      followAll before source = .ok v ∧ v.IsSequence ∧ Misleads segment

theorem get_faults_iff {path : String} :
    (∃ fault, source.get path = .error fault) ↔ source.Stumbles path := by
  rcases get_cases source path with ⟨entries, v, hmap, hfound, hget⟩ | ⟨hnokey, hget⟩
  · have hkey : source.HasKey path := ⟨entries, v, hmap, hfound⟩
    simp [hget, Stumbles, hkey]
  · rw [hget, followAll_faults_iff, Stumbles, and_iff_right hnokey]

theorem get_fault {path : String} {fault : Fault} (h : source.get path = .error fault) :
    ∃ detail, fault = .badValue detail := by
  rcases get_cases source path with ⟨entries, v, -, -, hget⟩ | ⟨-, hget⟩
  · rw [hget] at h
    cases h
  · rw [hget] at h
    exact followAll_fault h

theorem part_of_get {path : String} (h : source.get path = .ok v) : v = absent ∨ source.Part v := by
  rcases get_cases source path with ⟨entries, w, rfl, hfound, hget⟩ | ⟨-, hget⟩
  · rw [hget] at h
    obtain rfl := Except.ok.inj h
    exact Or.inr (.entry (mem_of_field? hfound) (.whole w))
  · rw [hget] at h
    exact part_of_followAll h

/-- Only what a map holds under each key counts, not where it holds it. -/
theorem get_map_congr {entries others : List (Value × Value)}
    (h : ∀ key, field? key entries = field? key others) (path : String) :
    (map entries).get path = (map others).get path := by
  have hsegments : split '.' path ≠ [] := by
    simpa [split] using pieces_ne_nil '.' path.toList
  obtain ⟨segment, rest, hsplit⟩ := List.exists_cons_of_ne_nil hsegments
  have hfollow : followAll (split '.' path) (map entries) =
      followAll (split '.' path) (map others) := by
    rw [hsplit, followAll_cons, followAll_cons]
    simp only [follow, h]
  simp only [get, h, hfollow]

/-- A path without a point that is no key of a map leads nowhere. -/
theorem get_map_of_undotted {entries : List (Value × Value)} {path : String}
    (hpath : '.' ∉ path.toList) (h : field? path entries = none) :
    (map entries).get path = .ok absent := by
  have hsplit : split '.' path = [path] := by
    simp [split, pieces_of_not_mem hpath]
  have hfollow : follow path (map entries) = .ok absent := by
    simp [follow, h]
  simp only [get, h, hsplit, followAll_cons, hfollow]
  rfl

/-! ### Joined paths -/

/-- No key at any depth holds a point. -/
def Undotted (source : Value) : Prop :=
  ∀ entries, source.Part (map entries) → ∀ key v, (text key, v) ∈ entries → '.' ∉ key.toList

theorem Undotted.part (h : Undotted source) (hpart : source.Part v) : Undotted v :=
  fun entries hentries => h entries (hpart.trans hentries)

theorem undotted_absent : Undotted absent := by
  intro entries hpart
  cases hpart

/-- Without points in keys, a path is nothing but its segments. -/
theorem Undotted.get_eq (h : Undotted source) (path : String) :
    source.get path = followAll (split '.' path) source := by
  rcases get_cases source path with ⟨entries, v, rfl, hfound, hget⟩ | ⟨-, hget⟩
  · have hpoint := h entries (.whole _) path v (mem_of_field? hfound)
    have hsplit : split '.' path = [path] := by
      simp [split, pieces_of_not_mem hpoint]
    have hfollow : follow path (map entries) = .ok v := by
      simp [follow, hfound]
    rw [hget, hsplit, followAll_cons, hfollow]
    rfl
  · exact hget

theorem split_joined (p q : String) :
    split '.' (p ++ "." ++ q) = split '.' p ++ split '.' q := by
  have hchars : (p ++ "." ++ q).toList = p.toList ++ '.' :: q.toList := by simp
  simp only [split, hchars, pieces_append, List.map_append]

/-- **Joined paths.** Where no key at any depth holds a point, two paths with a point between them
    lead where the second one leads from what the first one leads to, faults included. -/
theorem get_joined (h : Undotted source) (p q : String) :
    source.get (p ++ "." ++ q) = source.get p >>= fun v => v.get q := by
  rw [h.get_eq, h.get_eq, split_joined, followAll_append]
  cases hp : followAll (split '.' p) source with
  | error fault => rfl
  | ok v =>
    have hv : Undotted v := by
      rcases part_of_followAll hp with rfl | hpart
      · exact undotted_absent
      · exact h.part hpart
    exact (hv.get_eq q).symm

theorem undotted_map {entries : List (Value × Value)}
    (hkeys : ∀ key v, (text key, v) ∈ entries → '.' ∉ key.toList)
    (hvalues : ∀ entry ∈ entries, Undotted entry.2) : Undotted (map entries) := by
  intro others hpart
  cases hpart with
  | whole => exact hkeys
  | entry mem part => exact hvalues _ mem others part

theorem undotted_list {items : List Value} (h : ∀ v ∈ items, Undotted v) :
    Undotted (list items) := by
  intro entries hpart
  cases hpart with
  | listed mem part => exact h _ mem entries part

theorem undotted_text (s : String) : Undotted (text s) := by
  intro entries hpart
  cases hpart

/-- The name of the last user, found by the place and the name one after the other. -/
theorem get_joined_last :
    let source : Value := .map [(.text "users", .list [.null, .map [(.text "name", .text "b")]])]
    Undotted source ∧ source.get ("users.-1" ++ "." ++ "name") = .ok (.text "b") := by
  intro source
  have hsource : Undotted source := by
    refine undotted_map (by simp) ?_
    simp only [List.mem_singleton, forall_eq]
    refine undotted_list ?_
    simp only [List.mem_cons, List.not_mem_nil, or_false, forall_eq_or_imp, forall_eq]
    refine ⟨?_, undotted_map (by simp) (by simp [undotted_text])⟩
    intro entries hpart
    cases hpart
  exact ⟨hsource, (get_joined hsource "users.-1" "name").trans rfl⟩

end Value

end PayloadCheck
