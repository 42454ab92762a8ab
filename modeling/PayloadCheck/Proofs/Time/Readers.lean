import PayloadCheck.Proofs.Time.Notations

/-!
# Readers of dates find what exists

Whatever the standard notation or a format reads from a text is a moment that exists
(`isValid_of_readIso?`, `Format.told_eq_some`). A format tells an offset only where one of its
directives does.
-/

namespace PayloadCheck.Time

/-! ### Days -/

namespace Date

theorem isValid_of_ofDays? {n : Int} {d : Date} (h : ofDays? n = some d) : d.isValid = true := by
  unfold ofDays? at h
  split at h
  · next hn =>
    obtain rfl := Option.some.inj h
    exact (toDays_ofDays (by omega)).1
  · cases h

theorem ofDays?_eq_some {n : Int} (hpos : 0 ≤ n) (hlt : n < dayLimit) :
    ∃ d, ofDays? n = some d := by
  rw [ofDays?, if_pos ⟨hpos, hlt⟩]
  exact ⟨_, rfl⟩

theorem isValid_of_ofWeek? {year week day : Nat} {d : Date} (h : ofWeek? year week day = some d) :
    d.isValid = true := by
  unfold ofWeek? at h
  split at h
  · cases h
  · exact isValid_of_ofDays? h

end Date

/-! ### Moments -/

namespace Moment

/-- A moment that exists and has no offset. -/
structure IsUniversal (m : Moment) : Prop where
  valid : m.isValid = true
  offset : m.offset = none

theorem isUniversal_midnight {d : Date} (h : d.isValid = true) : (midnight d).IsUniversal := by
  refine ⟨(isValid_iff _).mpr ⟨h, ?_, ?_, ?_, ?_, rfl⟩, rfl⟩ <;> exact Nat.zero_lt_succ _

end Moment

/-! ### The standard notation -/

theorem isValid_of_readWeek? {year : Nat} {hyphens : Bool} {cs : List Char} {d : Date}
    (h : readWeek? year hyphens cs = some d) : d.isValid = true := by
  obtain ⟨⟨week, rest⟩, -, h⟩ := Option.bind_eq_some_iff.mp h
  dsimp only at h
  split at h
  · exact Date.isValid_of_ofWeek? h
  · obtain ⟨rest', -, h⟩ := Option.bind_eq_some_iff.mp h
    obtain ⟨⟨day, more⟩, -, h⟩ := Option.bind_eq_some_iff.mp h
    exact Date.isValid_of_ofWeek? h

theorem isValid_of_readDay? {cs : List Char} {d : Date} (h : readDay? cs = some d) :
    d.isValid = true := by
  obtain ⟨⟨year, rest⟩, -, h⟩ := Option.bind_eq_some_iff.mp h
  dsimp only at h
  split at h
  · exact isValid_of_readWeek? h
  · obtain ⟨⟨month, afterMonth⟩, -, h⟩ := Option.bind_eq_some_iff.mp h
    obtain ⟨beforeDay, -, h⟩ := Option.bind_eq_some_iff.mp h
    obtain ⟨⟨day, afterDay⟩, -, h⟩ := Option.bind_eq_some_iff.mp h
    dsimp only at h
    split at h
    · next hvalid =>
      obtain rfl := Option.some.inj h
      exact (Bool.and_eq_true_iff.mp hvalid).2
    · cases h

theorem isValid_of_readIso? {cs : List Char} {m : Moment} (h : readIso? cs = some m) :
    m.isValid = true := by
  obtain ⟨n, -, h⟩ := Option.bind_eq_some_iff.mp h
  obtain ⟨date, hdate, h⟩ := Option.bind_eq_some_iff.mp h
  split at h
  · obtain rfl := Option.some.inj h
    exact (Moment.isUniversal_midnight (isValid_of_readDay? hdate)).valid
  · obtain ⟨clock, -, h⟩ := Option.bind_eq_some_iff.mp h
    dsimp only at h
    split at h
    · cases h
    · obtain ⟨offset, -, h⟩ := Option.bind_eq_some_iff.mp h
      split at h
      · next hvalid =>
        obtain rfl := Option.some.inj h
        exact hvalid
      · cases h

/-! ### Formats -/

/-- The fields that a format takes from a text are those of its directives, in their order. -/
theorem Format.directives_of_capture? {f : Format} {cs rest : List Char}
    {fields : List (Directive × List Char)} (h : f.capture? cs = some (fields, rest)) :
    fields.map Prod.fst = f.directives := by
  induction f generalizing cs fields rest with
  | nil =>
    cases h
    rfl
  | cons item items ih =>
    obtain ⟨n, -, h⟩ := List.exists_of_findSome?_eq_some h
    obtain ⟨⟨fields', rest'⟩, hitems, h⟩ := Option.map_eq_some_iff.mp h
    cases item <;> cases h <;> simp [directives, ih hitems]

namespace Fields

theorem offset_of_add? {all : List (Directive × List Char)} {f g : Fields} {d : Directive}
    {cs : List Char} (hd : d ≠ .offset) (h : f.add? all d cs = some g) : g.offset = f.offset := by
  cases d with
  | offset => exact absurd rfl hd
  | monthName | monthShort | weekdayName | weekdayShort =>
    obtain ⟨i, -, rfl⟩ := Option.map_eq_some_iff.mp h
    rfl
  | _ =>
    obtain rfl := Option.some.inj h
    rfl

theorem offset_of_ofList? {all : List (Directive × List Char)} {g : Fields}
    (hall : Directive.offset ∉ all.map Prod.fst) (h : ofList? all = some g) : g.offset = none := by
  have hfold : ∀ (fields : List (Directive × List Char)) (f : Fields),
      Directive.offset ∉ fields.map Prod.fst →
      fields.foldlM (fun f (field : Directive × List Char) => f.add? all field.1 field.2) f =
        some g → g.offset = f.offset := by
    intro fields
    induction fields with
    | nil =>
      intro f _ h
      obtain rfl := Option.some.inj h
      rfl
    | cons field rest ih =>
      intro f hfields h
      rw [List.map_cons, List.mem_cons, not_or] at hfields
      obtain ⟨f', hf', h⟩ := Option.bind_eq_some_iff.mp h
      rw [ih f' hfields.2 h, offset_of_add? (Ne.symm hfields.1) hf']
  exact hfold all {} hall h

theorem moment?_eq_some {f : Fields} {m : Moment} (h : f.moment? = some m) :
    m.isValid = true ∧ m.offset = f.offset := by
  obtain ⟨date, -, h⟩ := Option.bind_eq_some_iff.mp h
  dsimp only at h
  split at h
  · next hvalid =>
    obtain rfl := Option.some.inj h
    exact ⟨hvalid, rfl⟩
  · cases h

end Fields

theorem Format.told_eq_some {f : Format} (hf : Directive.offset ∉ f.directives) {cs : List Char}
    {m : Moment} (h : f.told cs = some m) : m.IsUniversal := by
  obtain ⟨⟨fields, rest⟩, hcapture, h⟩ := Option.bind_eq_some_iff.mp h
  dsimp only at h
  split at h
  · obtain ⟨told, htold, h⟩ := Option.bind_eq_some_iff.mp h
    obtain ⟨hvalid, hoffset⟩ := Fields.moment?_eq_some h
    rw [← directives_of_capture? hcapture] at hf
    exact ⟨hvalid, hoffset.trans (Fields.offset_of_ofList? hf htold)⟩
  · cases h

end PayloadCheck.Time
