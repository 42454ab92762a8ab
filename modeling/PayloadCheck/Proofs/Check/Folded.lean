import Mathlib.Data.Finset.Card
import PayloadCheck.Check.Applicability
import PayloadCheck.Check.Message
import PayloadCheck.Proofs.Check.Catalogue
import PayloadCheck.Proofs.Rule.Folding

/-!
# Catalogues go by folded names

However a catalogue comes about by extending the built-in one, it tells names apart by what they
fold to, and so does every table that knows a rule by its key: which rules react to missing values,
which make a number out of a value, what a rule supplies for a message
(`extended_catalogue_goes_by_fold`).
-/

namespace PayloadCheck.Check

open PayloadCheck.Rule PayloadCheck.Text

/-! ### What is registered -/

/-- The checks of an extension under the names that were given for them. -/
def Extension.entries : Extension → List (String × Check)
  | checks cs => cs.map fun check => (check.name, check)
  | own entries => entries.map fun (name, arity, run) => (name, ⟨ownName name, arity, run⟩)

/-- All that is registered, from the built-in checks on. -/
def registered (resolves : List Char → Bool) (es : List Extension) : List (String × Check) :=
  (Extension.checks (builtinChecks resolves) :: es).flatMap Extension.entries

/-- The last check that was registered under a name that folds as `name` does. -/
def lastUnder (entries : List (String × Check)) (name : String) : Option Check :=
  ((entries.filter fun entry => fold entry.1 == fold name).getLast?).map Prod.snd

theorem Extension.map_snd_entries (e : Extension) : e.entries.map Prod.snd = e.toChecks := by
  cases e with
  | checks cs => simp [entries, toChecks, Function.comp_def]
  | own es => simp [entries, toChecks, Function.comp_def]

/-- A check is found under the folded name under which it was given. -/
theorem Extension.key_of_mem {e : Extension} {entry : String × Check} (h : entry ∈ e.entries)
    (hascii : IsAscii entry.1) : entry.2.key = fold entry.1 := by
  cases e with
  | checks cs =>
    obtain ⟨check, -, rfl⟩ := List.mem_map.mp h
    exact key_eq_fold hascii
  | own es =>
    obtain ⟨⟨name, arity, run⟩, -, rfl⟩ := List.mem_map.mp h
    have hid : IsAscii (identifier name) := isAscii_identifier hascii
    simp only [Check.key, ownName]
    rw [key_eq_fold (isAscii_readable hid), fold_readable hid]
    exact fold_identifier hascii

theorem isAscii_builtin {resolves : List Char → Bool} {check : Check}
    (h : check ∈ builtinChecks resolves) : IsAscii check.name := by
  have hall : ((builtinChecks resolves).map Check.name).all
      (fun name => name.toList.all fun c => c.toNat < 128) = true := by
    rw [names_builtinChecks]
    decide
  exact isAscii_of_all (List.all_eq_true.mp hall _ (List.mem_map_of_mem h))

theorem key_of_mem_registered {resolves : List Char → Bool} {es : List Extension}
    (hascii : ∀ e ∈ es, ∀ entry ∈ e.entries, IsAscii entry.1) {entry : String × Check}
    (h : entry ∈ registered resolves es) : IsAscii entry.1 ∧ entry.2.key = fold entry.1 := by
  obtain ⟨e, he, hentry⟩ := List.mem_flatMap.mp h
  have hname : IsAscii entry.1 := by
    rcases List.mem_cons.mp he with rfl | he
    · obtain ⟨check, hcheck, rfl⟩ := List.mem_map.mp hentry
      exact isAscii_builtin hcheck
    · exact hascii e he entry hentry
  exact ⟨hname, Extension.key_of_mem hentry hname⟩

/-- Extending step by step makes the catalogue of all that is registered. -/
theorem foldl_extendBy (resolves : List Char → Bool) (es : List Extension) :
    es.foldl Catalogue.extendBy (builtinFor resolves) =
      .ofList ((registered resolves es).map Prod.snd) := by
  have hstep : ∀ (cs : List Check), es.foldl Catalogue.extendBy (.ofList cs) =
      .ofList (cs ++ es.flatMap Extension.toChecks) := by
    induction es with
    | nil => simp
    | cons e rest ih =>
      intro cs
      have hextend : Catalogue.extendBy (.ofList cs) e = .ofList (cs ++ e.toChecks) := by
        simp [Catalogue.extendBy, Catalogue.ofList, Catalogue.extend]
      rw [List.foldl_cons, hextend, ih]
      simp
  have hall : (registered resolves es).map Prod.snd =
      builtinChecks resolves ++ es.flatMap Extension.toChecks := by
    rw [registered, List.map_flatMap, List.flatMap_cons, Extension.map_snd_entries]
    simp only [Extension.map_snd_entries]
    rfl
  rw [builtinFor, hstep, hall]

/-! ### What a catalogue and the other tables tell apart -/

/-- A catalogue that tells the names of the first 128 characters apart by what they fold to. -/
structure Catalogue.GoesByFold (c : Catalogue) (entries : List (String × Check)) : Prop where
  has_iff : ∀ name, IsAscii name →
    (c.has name = true ↔ ∃ entry ∈ entries, fold entry.1 = fold name)
  find?_eq : ∀ name, IsAscii name → c.find? name = lastUnder entries name
  keys_eq : c.keys = (entries.map fun entry => fold entry.1).eraseDups
  size_eq : c.size = (entries.map fun entry => fold entry.1).toFinset.card
  has_key : ∀ key ∈ c.keys, c.has key = true

/-- A rule that all tables know by what a name folds to: those of applicability, of sizes and of
placeholders. -/
structure KnownAs (rule : Spec) (name : String) : Prop where
  key_eq : rule.key = fold name
  implicit_iff : isImplicit rule = true ↔ fold name ∈ implicitKeys
  sometimes_iff : ∀ rules,
    isSometimes (rule :: rules) = true ↔ fold name = "sometimes" ∨ isSometimes rules = true
  numeric_iff : ∀ rules,
    hasNumericRule (rule :: rules) = true ↔ fold name ∈ numericKeys ∨ hasNumericRule rules = true
  supplied_eq : ∀ (m : Messages) (field placeholder : String), placeholder ≠ "attribute" →
    m.supplied field rule placeholder = (supplies.lookup (fold name)).bind fun s =>
      (s.entries rule.parameters m.shownName).lookup placeholder

theorem lastUnder_isSome_iff {entries : List (String × Check)} {name : String} :
    (lastUnder entries name).isSome = true ↔ ∃ entry ∈ entries, fold entry.1 = fold name := by
  rw [lastUnder, Option.isSome_map, List.getLast?_isSome, Ne, List.filter_eq_nil_iff]
  simp

theorem Catalogue.goesByFold_ofList {entries : List (String × Check)}
    (h : ∀ entry ∈ entries, IsAscii entry.1 ∧ entry.2.key = fold entry.1) :
    (ofList (entries.map Prod.snd)).GoesByFold entries := by
  have hkeys : (entries.map Prod.snd).map Check.key = entries.map fun entry => fold entry.1 := by
    rw [List.map_map]
    exact List.map_congr_left fun entry hentry => (h entry hentry).2
  have hfind : ∀ name, IsAscii name →
      (ofList (entries.map Prod.snd)).find? name = lastUnder entries name := by
    intro name hname
    have hfilter : entries.filter ((fun check => check.key == Rule.key name) ∘ Prod.snd) =
        entries.filter fun entry => fold entry.1 == fold name := by
      apply List.filter_congr
      intro entry hentry
      rw [Function.comp_apply, (h entry hentry).2, key_eq_fold hname]
    rw [find?_ofList, List.filter_map, List.getLast?_map, hfilter]
    rfl
  have hhas : ∀ name, IsAscii name → ((ofList (entries.map Prod.snd)).has name = true ↔
      ∃ entry ∈ entries, fold entry.1 = fold name) := by
    intro name hname
    rw [has, hfind name hname, lastUnder_isSome_iff]
  constructor
  · exact hhas
  · exact hfind
  · rw [keys_ofList, hkeys]
  · have hsize : (ofList (entries.map Prod.snd)).size =
        (ofList (entries.map Prod.snd)).keys.length := by
      simp [size, keys, FieldMap.keys]
    rw [hsize, ← List.toFinset_card_of_nodup (nodup_keys_ofList _), keys_ofList, hkeys]
    congr 1
    ext key
    simp [List.mem_eraseDups]
  · intro key hkey
    rw [keys_ofList, hkeys, List.mem_eraseDups] at hkey
    obtain ⟨entry, hentry, rfl⟩ := List.mem_map.mp hkey
    have hascii : IsAscii entry.1 := (h entry hentry).1
    exact (hhas _ (isAscii_fold hascii)).mpr ⟨entry, hentry, (fold_fold hascii).symm⟩

theorem knownAs_of_key {rule : Spec} {name : String} (h : rule.key = fold name) :
    KnownAs rule name := by
  constructor
  · exact h
  · simp [isImplicit, h]
  · intro rules
    simp [isSometimes, h]
  · intro rules
    simp [hasNumericRule, h]
  · intro m field placeholder hplaceholder
    simp [Messages.supplied, hplaceholder, h]

/-- Whatever the built-in catalogue is extended by, under names of the first 128 characters: it goes
by what the names fold to, and the rule of a token is known by what its name folds to. -/
theorem extended_catalogue_goes_by_fold (resolves : List Char → Bool) (es : List Extension)
    (hascii : ∀ e ∈ es, ∀ entry ∈ e.entries, IsAscii entry.1) :
    (es.foldl Catalogue.extendBy (builtinFor resolves)).GoesByFold (registered resolves es) ∧
      ∀ name, IsAscii name → ':' ∉ name.toList →
        ∀ token rule, (token = name ∨ ∃ t, token = name ++ ":" ++ t) →
          readToken token = .ok (some rule) →
            KnownAs rule name ∧
              (es.foldl Catalogue.extendBy (builtinFor resolves)).find? rule.name =
                lastUnder (registered resolves es) name := by
  have hgoes : (es.foldl Catalogue.extendBy (builtinFor resolves)).GoesByFold
      (registered resolves es) := by
    rw [foldl_extendBy]
    exact Catalogue.goesByFold_ofList fun entry hentry => key_of_mem_registered hascii hentry
  refine ⟨hgoes, ?_⟩
  intro name hname hcolon token rule htoken hread
  have hrule : rule.name = identifier name := name_of_readToken hcolon htoken hread
  have hid : IsAscii (identifier name) := isAscii_identifier hname
  have hfold : fold (identifier name) = fold name := fold_identifier hname
  refine ⟨knownAs_of_key ?_, ?_⟩
  · rw [Spec.key, hrule, key_eq_fold hid, hfold]
  · rw [hrule, hgoes.find?_eq _ hid, lastUnder, hfold, lastUnder]

/-- Of two own checks under one folded name the second is found, and both count as one. -/
theorem extended_catalogue_goes_by_fold_twice :
    let even : Check := ⟨"even_number", 0, fun _ _ _ _ => .decided true⟩
    let es : List Extension :=
      [.own [("Even Number", (1, fun _ _ _ _ => .decided false))], .checks [even]]
    let c := es.foldl Catalogue.extendBy builtin
    c.GoesByFold (registered Network.isLiteralHost es) ∧ c.find? "EVEN-number" = some even := by
  intro even es c
  have hascii : ∀ e ∈ es, ∀ entry ∈ e.entries, IsAscii entry.1 := by
    simp only [es, List.forall_mem_cons, Extension.entries]
    simp [IsAscii, even]
  obtain ⟨hgoes, -⟩ := extended_catalogue_goes_by_fold Network.isLiteralHost es hascii
  refine ⟨hgoes, (hgoes.find?_eq "EVEN-number" (isAscii_of_all (by decide))).trans ?_⟩
  have hlast : registered Network.isLiteralHost es =
      registered Network.isLiteralHost (es.take 1) ++ [("even_number", even)] := by
    simp [registered, es, Extension.entries, even]
  have hfold : fold "even_number" = fold "EVEN-number" := by decide
  rw [lastUnder, hlast, List.filter_append]
  simp [hfold]

end PayloadCheck.Check
