import PayloadCheck.Proofs.Rule.Folding
import PayloadCheck.Proofs.Time.Letters

/-!
# Dates with separators

A format in letters that has year, month, day and perhaps parts of the time of day, each once, is
laid out as fields with separators between them (`DateLayout`). A moment that is written in such a
format is read back as far as the format shows it (`DateLayout.readBy_rendered`), whatever the order
of the fields and the text of the separators.
-/

namespace PayloadCheck.Time

open PayloadCheck.Text PayloadCheck.Number

/-- The letters of fields that are written with a fixed number of digits. -/
def fieldLetters : List Char := ['Y', 'm', 'd', 'H', 'i', 's']

/-- The punctuation among the first 128 characters. -/
def isPunctuation (c : Char) : Bool :=
  let n := c.toNat
  (33 ≤ n && n ≤ 47) || (58 ≤ n && n ≤ 64) || (91 ≤ n && n ≤ 96) || (123 ≤ n && n ≤ 126)

/-- What may stand between letters: spaces, and punctuation other than the percent sign and the
backslash. -/
def isSeparator (c : Char) : Bool := c == ' ' || (isPunctuation c && c != '%' && c != '\\')

/-- A format in letters: each once, year, month and day among them, with separators, or none, in
front of each. -/
structure DateLayout where
  pieces : List (List Char × Char)
  separated : ∀ piece ∈ pieces, ∀ c ∈ piece.1, isSeparator c = true
  known : ∀ piece ∈ pieces, piece.2 ∈ fieldLetters
  once : (pieces.map Prod.snd).Nodup
  day : ∀ c ∈ ['Y', 'm', 'd'], c ∈ pieces.map Prod.snd

/-- Pieces one after the other, with something in place of their letters. -/
def joinPieces (shown : Char → List Char) (pieces : List (List Char × Char)) : List Char :=
  pieces.flatMap fun piece => piece.1 ++ shown piece.2

/-- A field of a moment as its letter shows it: the year with four digits, the others with two. -/
def Moment.digits (m : Moment) : Char → List Char
  | 'Y' => padded 4 m.date.year
  | 'm' => padded 2 m.date.month
  | 'd' => padded 2 m.date.day
  | 'H' => padded 2 m.hour
  | 'i' => padded 2 m.minute
  | 's' => padded 2 m.second
  | c => [c]

namespace DateLayout

/-- The letters of the format, in their order. -/
def letters (f : DateLayout) : List Char := f.pieces.map Prod.snd

/-- The format as it is written. -/
def text (f : DateLayout) : String := String.ofList (joinPieces (fun c => [c]) f.pieces)

/-- A moment in the format. -/
def rendered (f : DateLayout) (m : Moment) : String := String.ofList (joinPieces m.digits f.pieces)

/-- A moment as far as the format shows it, all other parts of the time of day being zero. -/
def kept (f : DateLayout) (m : Moment) : Moment where
  date := m.date
  hour := if 'H' ∈ f.letters then m.hour else 0
  minute := if 'i' ∈ f.letters then m.minute else 0
  second := if 's' ∈ f.letters then m.second else 0
  micro := 0
  offset := none

theorem isValid_kept {m : Moment} (h : m.isValid = true) (f : DateLayout) :
    (f.kept m).isValid = true := by
  refine Moment.isValid_of_le h ?_ ?_ ?_ <;> split <;> omega

end DateLayout

/-! ### Fields and separators -/

/-- The directive that a letter of a field stands for. -/
def fieldDirective : Char → Directive
  | 'Y' => .year
  | 'm' => .month
  | 'd' => .day
  | 'H' => .hour
  | 'i' => .minute
  | _ => .second

section Field

variable {c : Char} (hc : c ∈ fieldLetters)
include hc

theorem fieldDirective_spec : c ≠ '\\' ∧ fieldDirective c ∈ shownDirectives ∧
    formatLetters.lookup c = some (fieldDirective c).letter := by
  simp only [fieldLetters, List.mem_cons, List.not_mem_nil, or_false] at hc
  rcases hc with rfl | rfl | rfl | rfl | rfl | rfl <;> decide

theorem shown_fieldDirective (m : Moment) : m.shown (fieldDirective c).letter = m.digits c := by
  simp only [fieldLetters, List.mem_cons, List.not_mem_nil, or_false] at hc
  rcases hc with rfl | rfl | rfl | rfl | rfl | rfl <;> rfl

theorem fieldDirective_injective {c' : Char} (hc' : c' ∈ fieldLetters)
    (h : fieldDirective c = fieldDirective c') : c = c' := by
  have hnodup : (fieldLetters.map fieldDirective).Nodup := by decide
  exact List.inj_on_of_nodup_map hnodup hc hc' h

end Field

theorem separator_spec {c : Char} (hc : isSeparator c = true) :
    c ≠ '%' ∧ c ≠ '\\' ∧ formatLetters.lookup c = none ∧ isLetter c = false := by
  have hascii : c.toNat < 128 := by
    simp only [isSeparator, isPunctuation, Bool.or_eq_true, Bool.and_eq_true, beq_iff_eq,
      decide_eq_true_eq] at hc
    rcases hc with rfl | hc
    · decide
    · omega
  exact Rule.of_forall_lt (p := fun c => isSeparator c = true →
    c ≠ '%' ∧ c ≠ '\\' ∧ formatLetters.lookup c = none ∧ isLetter c = false) (by decide) hascii hc

/-! ### Translating and filling in -/

/-- Pieces with directives in place of their letters. -/
def directiveText (pieces : List (List Char × Char)) : List Char :=
  joinPieces (fun c => ['%', (fieldDirective c).letter]) pieces

theorem joinPieces_cons (shown : Char → List Char) (gap : List Char) (c : Char)
    (rest : List (List Char × Char)) :
    joinPieces shown ((gap, c) :: rest) = gap ++ (shown c ++ joinPieces shown rest) := by
  simp [joinPieces]

section Gaps

variable {gap : List Char} (hgap : ∀ c ∈ gap, isSeparator c = true)
include hgap

theorem directivesFor_gap {cs ds : List Char} (h : directivesFor cs = .ok ds) :
    directivesFor (gap ++ cs) = .ok (gap ++ ds) := by
  induction gap with
  | nil => exact h
  | cons c rest ih =>
    obtain ⟨hc, hrest⟩ := List.forall_mem_cons.mp hgap
    obtain ⟨-, hescape, hlookup, hletter⟩ := separator_spec hc
    rw [List.cons_append, directivesFor_cons hescape, hlookup, ih hrest]
    simp [hletter, Except.map]

theorem fills_gap {m : Moment} {cs ts : List Char} {ds : List Directive} (h : Fills m cs ds ts) :
    Fills m (gap ++ cs) ds (gap ++ ts) := by
  induction gap with
  | nil => exact h
  | cons c rest ih =>
    obtain ⟨hc, hrest⟩ := List.forall_mem_cons.mp hgap
    exact .plain (separator_spec hc).1 (ih hrest)

end Gaps

section Pieces

variable {pieces : List (List Char × Char)}
  (hseparated : ∀ piece ∈ pieces, ∀ c ∈ piece.1, isSeparator c = true)
  (hknown : ∀ piece ∈ pieces, piece.2 ∈ fieldLetters)
include hseparated hknown

theorem directivesFor_pieces :
    directivesFor (joinPieces (fun c => [c]) pieces) = .ok (directiveText pieces) := by
  induction pieces with
  | nil => rfl
  | cons piece rest ih =>
    obtain ⟨gap, c⟩ := piece
    obtain ⟨hgap, hrest⟩ := List.forall_mem_cons.mp hseparated
    obtain ⟨hc, hknown⟩ := List.forall_mem_cons.mp hknown
    obtain ⟨hescape, -, hlookup⟩ := fieldDirective_spec hc
    rw [directiveText, joinPieces_cons, joinPieces_cons]
    refine directivesFor_gap hgap ?_
    rw [List.singleton_append, directivesFor_cons hescape, hlookup, ih hrest hknown]
    rfl

theorem fills_pieces (m : Moment) : Fills m (directiveText pieces)
    ((pieces.map Prod.snd).map fieldDirective) (joinPieces m.digits pieces) := by
  induction pieces with
  | nil => exact .nil
  | cons piece rest ih =>
    obtain ⟨gap, c⟩ := piece
    obtain ⟨hgap, hrest⟩ := List.forall_mem_cons.mp hseparated
    obtain ⟨hc, hknown⟩ := List.forall_mem_cons.mp hknown
    obtain ⟨-, hshown, -⟩ := fieldDirective_spec hc
    rw [directiveText, joinPieces_cons, joinPieces_cons, ← shown_fieldDirective hc m]
    exact fills_gap hgap (.field hshown (ih hrest hknown))

end Pieces

/-! ### Layouts -/

namespace DateLayout

variable (f : DateLayout)

/-- The directives of the format. -/
def directives : List Directive := f.letters.map fieldDirective

theorem known_letters {c : Char} (hc : c ∈ f.letters) : c ∈ fieldLetters := by
  obtain ⟨piece, hpiece, rfl⟩ := List.mem_map.mp hc
  exact f.known piece hpiece

theorem mem_directives_iff {c : Char} (hc : c ∈ fieldLetters) :
    fieldDirective c ∈ f.directives ↔ c ∈ f.letters := by
  constructor
  · intro hmem
    obtain ⟨c', hc', heq⟩ := List.mem_map.mp hmem
    rwa [← fieldDirective_injective (f.known_letters hc') hc heq]
  · exact List.mem_map_of_mem

theorem nodup_directives : f.directives.Nodup := by
  refine List.Nodup.map_on ?_ f.once
  intro c hc c' hc' heq
  exact fieldDirective_injective (f.known_letters hc) (f.known_letters hc') heq

theorem mark_not_mem : '%' ∉ joinPieces (fun c => [c]) f.pieces := by
  intro hmem
  obtain ⟨piece, hpiece, hmem⟩ := List.mem_flatMap.mp hmem
  rcases List.mem_append.mp hmem with hgap | hletter
  · exact (separator_spec (f.separated piece hpiece _ hgap)).1 rfl
  · have hknown := f.known piece hpiece
    rw [← List.mem_singleton.mp hletter] at hknown
    revert hknown
    decide

theorem formatOfLetters_text :
    formatOfLetters f.text = .ok (String.ofList (directiveText f.pieces)) := by
  have hmark : (joinPieces (fun c => [c]) f.pieces).contains '%' = false := by
    simpa using f.mark_not_mem
  rw [formatOfLetters, text, String.toList_ofList, hmark, directivesFor_pieces f.separated f.known]
  rfl

/-- The directives of the format tell the day and what the format shows of the time of day. -/
theorem moment?_directives {m : Moment} (h : m.isValid = true) :
    (f.directives.foldl m.tell {}).moment? = some (f.kept m) := by
  have hyear : .year ∈ f.directives :=
    (f.mem_directives_iff (c := 'Y') (by decide)).mpr (f.day _ (by decide))
  have hmonth : .month ∈ f.directives :=
    (f.mem_directives_iff (c := 'm') (by decide)).mpr (f.day _ (by decide))
  have hday : .day ∈ f.directives :=
    (f.mem_directives_iff (c := 'd') (by decide)).mpr (f.day _ (by decide))
  have hhour : .hour ∈ f.directives ↔ 'H' ∈ f.letters :=
    f.mem_directives_iff (c := 'H') (by decide)
  have hminute : .minute ∈ f.directives ↔ 'i' ∈ f.letters :=
    f.mem_directives_iff (c := 'i') (by decide)
  have hsecond : .second ∈ f.directives ↔ 's' ∈ f.letters :=
    f.mem_directives_iff (c := 's') (by decide)
  refine moment?_eq (f.isValid_kept h) ?_
  simp [foldl_tell, hyear, hmonth, hday, hhour, hminute, hsecond]

/-- A moment that is written in the format is read back as far as the format shows it. -/
theorem readBy_rendered {m : Moment} (h : m.isValid = true) :
    readBy (String.ofList (directiveText f.pieces)) (f.rendered m) = .ok (some (f.kept m)) := by
  obtain ⟨format, hformat, hdirectives, htold⟩ := (fills_pieces f.separated f.known m).told h
  have hread : format.read (f.rendered m) = .ok (format.told (joinPieces m.digits f.pieces)) :=
    Format.read_eq_told (hdirectives ▸ f.nodup_directives) _
  rw [readBy, String.toList_ofList, hformat]
  simp only
  rw [hread, htold, ← f.moment?_directives h]
  rfl

end DateLayout

end PayloadCheck.Time
