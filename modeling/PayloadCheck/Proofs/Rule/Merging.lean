import Mathlib.Data.List.Forall2
import PayloadCheck.Proofs.FieldMap
import PayloadCheck.Rule.Config

/-!
# Merged rule sets

In the order of merging it does not matter which two of three sets are merged first, and the rules
of a merged set are read as those of its parts: field by field the specifications of the first set,
then those of the second (`merge_assoc_reads`). Merging cuts the rules of a field into single ones,
as reading them does; a single rule is read for itself (`Entry.read`), so the rules of a field may be
cut anywhere between two of them (`readEntries_append_eq_ok_iff`).
-/

namespace PayloadCheck.Rule

open PayloadCheck.Text

/-! ### Single rules -/

def Entry.read : Entry → Except Fault (List Spec)
  | token text => (·.toList) <$> readToken text
  | spec s => .ok [s]

/-- Whether a rule is a token without content. -/
def Entry.isBlank : Entry → Bool
  | token text => allBlank text
  | spec _ => false

def readEntries : List Entry → Except Fault (List Spec)
  | [] => .ok []
  | e :: rest => do return (← e.read) ++ (← readEntries rest)

theorem readItems_toValue (es : List Entry) :
    readItems (es.map Entry.toValue) = readEntries es := by
  induction es with
  | nil => rfl
  | cons e rest ih =>
    rw [List.map_cons, readEntries, ← ih]
    cases e with
    | token text => rfl
    | spec s => rfl

theorem readTokens_eq (texts : List String) : readTokens texts = readEntries (texts.map .token) := by
  induction texts with
  | nil => rfl
  | cons text rest ih =>
    rw [List.map_cons, readEntries, readTokens, ih, Entry.read]
    cases readToken text <;> rfl

/-- However the rules of a field are given, they are read one by one. -/
theorem readRules_toValue (entries : Entries) :
    readRules entries.toValue = readEntries entries.toList := by
  cases entries with
  | joined text => exact readTokens_eq (split '|' text)
  | listed es => exact readItems_toValue es

theorem readRules_tokens (texts : List String) :
    readRules (.list (texts.map .text)) = readEntries (texts.map .token) := by
  rw [← readItems_toValue, List.map_map]
  rfl

theorem readEntries_cons_eq_ok_iff {e : Entry} {rest : List Entry} {specs : List Spec} :
    readEntries (e :: rest) = .ok specs ↔
      ∃ first more, e.read = .ok first ∧ readEntries rest = .ok more ∧ first ++ more = specs := by
  rw [readEntries]
  cases e.read with
  | error fault => simp [bind, Except.bind]
  | ok first => cases readEntries rest <;> simp [bind, Except.bind, pure, Except.pure]

theorem readEntries_append_eq_ok_iff {xs ys : List Entry} {specs : List Spec} :
    readEntries (xs ++ ys) = .ok specs ↔
      ∃ first more, readEntries xs = .ok first ∧ readEntries ys = .ok more ∧
        first ++ more = specs := by
  induction xs generalizing specs with
  | nil => simp [readEntries]
  | cons e rest ih =>
    rw [List.cons_append, readEntries_cons_eq_ok_iff]
    constructor
    · rintro ⟨own, more, hown, hmore, rfl⟩
      obtain ⟨left, right, hleft, hright, rfl⟩ := ih.mp hmore
      refine ⟨own ++ left, right, ?_, hright, List.append_assoc own left right⟩
      exact readEntries_cons_eq_ok_iff.mpr ⟨own, left, hown, hleft, rfl⟩
    · rintro ⟨first, right, hfirst, hright, rfl⟩
      obtain ⟨own, left, hown, hleft, rfl⟩ := readEntries_cons_eq_ok_iff.mp hfirst
      refine ⟨own, left ++ right, hown, ?_, (List.append_assoc own left right).symm⟩
      exact ih.mpr ⟨left, right, hleft, hright, rfl⟩

theorem Entry.read_of_isBlank {e : Entry} (h : e.isBlank = true) : e.read = .ok [] := by
  cases e with
  | token text =>
    have hnone : readToken text = .ok none := by
      unfold readToken
      rw [if_pos (show allBlank text = true from h)]
      rfl
    rw [Entry.read, hnone]
    rfl
  | spec s => cases h

theorem readEntries_not_blank (es : List Entry) :
    readEntries (es.filter fun e => !e.isBlank) = readEntries es := by
  induction es with
  | nil => rfl
  | cons e rest ih =>
    cases hblank : e.isBlank with
    | true =>
      rw [List.filter_cons_of_neg (by simp [hblank]), ih, readEntries,
        Entry.read_of_isBlank hblank]
      cases readEntries rest <;> rfl
    | false =>
      rw [List.filter_cons_of_pos (by simp [hblank]), readEntries, ih, readEntries]

/-! ### Faults of single rules -/

def IsMalformed (fault : Fault) : Prop := ∃ rule detail, fault = .malformedRule rule detail

theorem readParameters_fault {name text : List Char} {fault : Fault}
    (h : readParameters name text = .error fault) : IsMalformed fault := by
  unfold readParameters at h
  split at h
  · cases h
  · split at h
    · cases h
    · cases h
      exact ⟨_, _, rfl⟩

theorem readToken_fault {token : String} {fault : Fault} (h : readToken token = .error fault) :
    IsMalformed fault := by
  have hname : ∀ {name : List Char} {ps : List String},
      (do
        if (identifierChars name).isEmpty then
          throw (.malformedRule token "Rule token has no rule name")
        return some ⟨String.ofList (identifierChars name), ps⟩ : Except Fault (Option Spec)) =
        .error fault → IsMalformed fault := by
    intro name ps hrule
    split at hrule
    · cases hrule
      exact ⟨_, _, rfl⟩
    · cases hrule
  unfold readToken at h
  split at h
  · cases h
  cases hcut : cut? ':' token.toList with
  | none =>
    rw [hcut] at h
    exact hname h
  | some parts =>
    obtain ⟨name, text⟩ := parts
    rw [hcut] at h
    rcases Fault.bind_eq_error_iff.mp h with hread | ⟨ps, -, hrule⟩
    · exact readParameters_fault hread
    · exact hname hrule

theorem Entry.read_fault {e : Entry} {fault : Fault} (h : e.read = .error fault) :
    IsMalformed fault := by
  cases e with
  | token text => exact readToken_fault (Fault.map_eq_error_iff.mp h)
  | spec s => cases h

theorem readEntries_fault {es : List Entry} {fault : Fault} (h : readEntries es = .error fault) :
    IsMalformed fault := by
  induction es with
  | nil => cases h
  | cons e rest ih =>
    rcases Fault.bind_eq_error_iff.mp h with hread | ⟨first, -, h⟩
    · exact Entry.read_fault hread
    · rcases Fault.bind_eq_error_iff.mp h with hrest | ⟨more, -, h⟩
      · exact ih hrest
      · cases h

/-! ### The rules of all fields -/

/-- A field of a rule map is what the rules of a field of a rule set are read as. -/
def ReadAs (rules : String × Entries) (specs : String × List Spec) : Prop :=
  rules.1 = specs.1 ∧ readEntries rules.2.toList = .ok specs.2

def declare (rules : FieldMap Entries) : Declared := rules.map fun (field, e) => (field, e.toValue)

theorem readDeclared_eq_ok_iff {rules : FieldMap Entries} {specs : RuleMap} :
    readDeclared (declare rules) = .ok specs ↔ List.Forall₂ ReadAs rules specs := by
  induction rules generalizing specs with
  | nil =>
    cases specs <;> simp [declare, readDeclared]
  | cons entry rest ih =>
    obtain ⟨field, entries⟩ := entry
    simp only [declare, List.map_cons, readDeclared, readRules_toValue]
    constructor
    · intro h
      obtain ⟨own, hown, h⟩ := Fault.bind_eq_ok_iff.mp h
      obtain ⟨more, hmore, h⟩ := Fault.bind_eq_ok_iff.mp h
      cases h
      exact .cons ⟨rfl, hown⟩ (ih.mp hmore)
    · intro h
      cases h with
      | @cons _ b _ more hfirst hrest =>
        obtain ⟨field', own⟩ := b
        obtain ⟨rfl, hown⟩ := hfirst
        refine Fault.bind_eq_ok_iff.mpr ⟨own, hown, ?_⟩
        exact Fault.bind_eq_ok_iff.mpr ⟨more, ih.mpr hrest, rfl⟩

theorem keys_of_reads {rules : FieldMap Entries} {specs : RuleMap}
    (h : List.Forall₂ ReadAs rules specs) : specs.keys = rules.keys := by
  induction h with
  | nil => rfl
  | cons hfirst _ ih =>
    simp only [FieldMap.keys, List.map_cons, List.cons.injEq] at ih ⊢
    exact ⟨hfirst.1.symm, ih⟩

theorem readDeclared_isOk_iff {rules : FieldMap Entries} :
    (∃ specs, readDeclared (declare rules) = .ok specs) ↔
      ∀ entry ∈ rules, ∃ specs, readEntries entry.2.toList = .ok specs := by
  simp only [readDeclared_eq_ok_iff]
  induction rules with
  | nil => simp
  | cons entry rest ih =>
    rw [List.forall_mem_cons, ← ih]
    constructor
    · rintro ⟨specs, h⟩
      cases h with
      | cons hfirst hrest => exact ⟨⟨_, hfirst.2⟩, _, hrest⟩
    · rintro ⟨⟨own, hown⟩, specs, hrest⟩
      exact ⟨(entry.1, own) :: specs, .cons ⟨rfl, hown⟩ hrest⟩

theorem readDeclared_fault {rules : FieldMap Entries} {fault : Fault}
    (h : readDeclared (declare rules) = .error fault) : IsMalformed fault := by
  induction rules with
  | nil => cases h
  | cons entry rest ih =>
    obtain ⟨field, entries⟩ := entry
    rcases Fault.bind_eq_error_iff.mp h with hown | ⟨own, -, h⟩
    · rw [readRules_toValue] at hown
      exact readEntries_fault hown
    · rcases Fault.bind_eq_error_iff.mp h with hrest | ⟨more, -, h⟩
      · exact ih hrest
      · cases h

/-! ### Rules put together -/

/-- Rules of a field behind those that are there. -/
def joinEntries (old : Option Entries) (more : Entries) : Entries :=
  .listed ((old.map Entries.toList).getD [] ++ more.toList)

def joinSpecs (old : Option (List Spec)) (more : List Spec) : List Spec := old.getD [] ++ more

theorem reads_alter {rules : FieldMap Entries} {specs : RuleMap}
    (h : List.Forall₂ ReadAs rules specs) (field : String) {more : Entries} {new : List Spec}
    (hmore : readEntries more.toList = .ok new) :
    List.Forall₂ ReadAs (rules.alter field (joinEntries · more))
      (specs.alter field (joinSpecs · new)) := by
  induction h with
  | nil => exact .cons ⟨rfl, hmore⟩ .nil
  | @cons first own rest others hfirst hrest ih =>
    obtain ⟨k, entries⟩ := first
    obtain ⟨k', specs⟩ := own
    obtain ⟨rfl, hread⟩ := hfirst
    simp only [FieldMap.alter]
    split
    · refine .cons ⟨rfl, ?_⟩ hrest
      exact readEntries_append_eq_ok_iff.mpr ⟨specs, new, hread, hmore, rfl⟩
    · exact .cons ⟨rfl, hread⟩ ih

theorem reads_combine {a b : FieldMap Entries} {specsA specsB : RuleMap}
    (ha : List.Forall₂ ReadAs a specsA) (hb : List.Forall₂ ReadAs b specsB) :
    List.Forall₂ ReadAs (a.combine joinEntries b) (specsA.combine joinSpecs specsB) := by
  induction hb generalizing a specsA with
  | nil => exact ha
  | @cons first own rest others hfirst _ ih =>
    obtain ⟨k, entries⟩ := first
    obtain ⟨k', specs⟩ := own
    obtain ⟨rfl, hread⟩ := hfirst
    exact ih (reads_alter ha k hread)

/-- The rules of every field as a list. -/
def listEntries (rules : FieldMap Entries) : FieldMap Entries :=
  rules.map fun (field, e) => (field, .listed e.toList)

theorem reads_listEntries {rules : FieldMap Entries} {specs : RuleMap}
    (h : List.Forall₂ ReadAs rules specs) : List.Forall₂ ReadAs (listEntries rules) specs :=
  List.forall₂_map_left_iff.mpr h

theorem get?_listEntries (rules : FieldMap Entries) (field : String) :
    (listEntries rules).get? field = (rules.get? field).map fun e => .listed e.toList :=
  FieldMap.get?_map rules (fun _ e => Entries.listed e.toList) field

theorem keys_listEntries (rules : FieldMap Entries) : (listEntries rules).keys = rules.keys := by
  simp [listEntries, FieldMap.keys]

/-- Rules as lists are what comes of putting them behind no rules at all. -/
theorem listEntries_eq_combine {rules : FieldMap Entries} (h : rules.keys.Nodup) :
    listEntries rules = FieldMap.combine joinEntries [] rules := by
  have hkeys : (listEntries rules).keys = (FieldMap.combine joinEntries [] rules).keys := by
    rw [FieldMap.keys_combine joinEntries [] h, keys_listEntries]
    simp [FieldMap.keys]
  apply FieldMap.ext_of_get? _ hkeys
  · intro field
    rw [get?_listEntries, FieldMap.get?_combine joinEntries [] h]
    cases rules.get? field <;> rfl
  · rw [keys_listEntries]
    exact h

theorem combine_joinEntries_assoc {a b c : FieldMap Entries} (ha : a.keys.Nodup)
    (hb : b.keys.Nodup) (hc : c.keys.Nodup) :
    (a.combine joinEntries b).combine joinEntries c =
      a.combine joinEntries (b.combine joinEntries c) := by
  apply FieldMap.combine_assoc joinEntries _ _ ha hb hc
  · intro old v w
    simp [joinEntries, Entries.toList]
  · intro old w
    simp [joinEntries, Entries.toList]

/-! ### Merging -/

namespace RuleSet

/-- No field, no message and no shown name has two entries. -/
structure Keyed (s : RuleSet) : Prop where
  rules : s.rules.keys.Nodup
  messages : s.messages.keys.Nodup
  names : s.names.keys.Nodup

variable {a b c : RuleSet}

theorem merge_eq (a b : RuleSet) :
    a.merge b = ⟨a.name ++ "+" ++ b.name, joined_name_ne a.name b.name,
      (listEntries a.rules).combine joinEntries b.rules, a.messages.merge b.messages,
      a.names.merge b.names⟩ := by
  simp only [merge, ne_eq, not_true_eq_false, dite_false]
  rfl

theorem Keyed.merge (ha : a.Keyed) (b : RuleSet) : (a.merge b).Keyed := by
  rw [merge_eq]
  constructor
  · apply FieldMap.nodup_keys_combine joinEntries
    rw [keys_listEntries]
    exact ha.rules
  · exact FieldMap.nodup_keys_merge ha.messages b.messages
  · exact FieldMap.nodup_keys_merge ha.names b.names

theorem nodup_of_readConfigTexts {part : Option Value} {texts : FieldMap String}
    (h : readConfigTexts part = .ok texts) : texts.keys.Nodup := by
  unfold readConfigTexts at h
  split at h
  · cases h
    exact List.nodup_nil
  · split at h
    · cases h
      exact List.nodup_nil
    · split at h
      · obtain ⟨entries, -, h⟩ := Fault.bind_eq_ok_iff.mp h
        cases h
        exact FieldMap.nodup_keys_ofList entries
      · cases h

theorem nodup_of_readConfigSection {part : Option Value} {rules : FieldMap Entries}
    (h : readConfigSection part = .ok rules) : rules.keys.Nodup := by
  unfold readConfigSection at h
  split at h
  · obtain ⟨fields, -, h⟩ := Fault.bind_eq_ok_iff.mp h
    cases h
    exact FieldMap.nodup_keys_ofList fields
  · cases h

theorem ofParts_eq_ok {name : String} {rules : FieldMap Entries} {messages names : FieldMap String}
    {s : RuleSet} (h : ofParts name rules messages names = .ok s) :
    s.name = name ∧ s.rules = rules ∧ s.messages = messages ∧ s.names = names := by
  unfold ofParts fitSetName at h
  split at h
  · cases h
    exact ⟨rfl, rfl, rfl, rfl⟩
  · cases h

/-- A set that is read from a configuration is keyed, whatever keys the configuration repeats. -/
theorem Keyed.of_ofConfig {config : Value} {default : String} {s : RuleSet}
    (h : ofConfig config default = .ok s) : s.Keyed := by
  cases config with
  | map entries =>
    obtain ⟨rules, hrules, h⟩ := Fault.bind_eq_ok_iff.mp h
    obtain ⟨name, -, h⟩ := Fault.bind_eq_ok_iff.mp h
    obtain ⟨messages, hmessages, h⟩ := Fault.bind_eq_ok_iff.mp h
    obtain ⟨names, hnames, h⟩ := Fault.bind_eq_ok_iff.mp h
    cases hparts : ofParts name rules messages names with
    | error fault =>
      rw [hparts] at h
      cases h
    | ok built =>
      rw [hparts] at h
      cases h
      obtain ⟨-, rfl, rfl, rfl⟩ := ofParts_eq_ok hparts
      exact ⟨nodup_of_readConfigSection hrules, nodup_of_readConfigTexts hmessages,
        nodup_of_readConfigTexts hnames⟩
  | _ => cases h

/-- The rules that come of merging are lists already. -/
theorem listEntries_merge (ha : a.Keyed) (hb : b.Keyed) :
    listEntries (a.merge b).rules = (a.merge b).rules := by
  have hnil : (FieldMap.keys ([] : FieldMap Entries)).Nodup := List.nodup_nil
  have hlisted : listEntries (listEntries a.rules) = listEntries a.rules := by
    simp [listEntries, Entries.toList]
  rw [listEntries_eq_combine (ha.merge b).rules, merge_eq]
  have hkeys : (listEntries a.rules).keys.Nodup := by
    rw [keys_listEntries]
    exact ha.rules
  rw [← combine_joinEntries_assoc hnil hkeys hb.rules, ← listEntries_eq_combine hkeys, hlisted]

theorem rules_merge_assoc (ha : a.Keyed) (hb : b.Keyed) (hc : c.Keyed) :
    ((a.merge b).merge c).rules = (a.merge (b.merge c)).rules := by
  have hnil : (FieldMap.keys ([] : FieldMap Entries)).Nodup := List.nodup_nil
  have hlist : (listEntries a.rules).keys.Nodup := by
    rw [keys_listEntries]
    exact ha.rules
  have hbc := FieldMap.nodup_keys_combine joinEntries hb.rules c.rules
  calc ((a.merge b).merge c).rules
    _ = (listEntries (a.merge b).rules).combine joinEntries c.rules := by
      rw [merge_eq (a.merge b) c]
    _ = ((listEntries a.rules).combine joinEntries b.rules).combine joinEntries c.rules := by
      rw [listEntries_merge ha hb, merge_eq]
    _ = (listEntries a.rules).combine joinEntries (b.rules.combine joinEntries c.rules) :=
      combine_joinEntries_assoc hlist hb.rules hc.rules
    _ = (listEntries a.rules).combine joinEntries
          (FieldMap.combine joinEntries [] (b.rules.combine joinEntries c.rules)) := by
      rw [← combine_joinEntries_assoc hlist hnil hbc]
      rfl
    _ = (listEntries a.rules).combine joinEntries (b.merge c).rules := by
      rw [← combine_joinEntries_assoc hnil hb.rules hc.rules, ← listEntries_eq_combine hb.rules,
        merge_eq]
    _ = (a.merge (b.merge c)).rules := by
      rw [merge_eq a (b.merge c)]

theorem merge_assoc (ha : a.Keyed) (hb : b.Keyed) (hc : c.Keyed) :
    (a.merge b).merge c = a.merge (b.merge c) := by
  have hrules := rules_merge_assoc ha hb hc
  have hmessages := FieldMap.merge_assoc ha.messages hb.messages hc.messages
  have hnames := FieldMap.merge_assoc ha.names hb.names hc.names
  simp only [merge_eq, RuleSet.mk.injEq] at hrules ⊢
  exact ⟨by simp [String.append_assoc], hrules, hmessages, hnames⟩

/-! ### Reading merged rules -/

theorem reads_merge {specsA specsB : RuleMap} (ha : readDeclared a.declared = .ok specsA)
    (hb : readDeclared b.declared = .ok specsB) :
    readDeclared (a.merge b).declared = .ok (specsA.combine joinSpecs specsB) := by
  have hreadsA := readDeclared_eq_ok_iff.mp ha
  have hreadsB := readDeclared_eq_ok_iff.mp hb
  rw [merge_eq]
  exact readDeclared_eq_ok_iff.mpr (reads_combine (reads_listEntries hreadsA) hreadsB)

theorem get?_rules_merge (a : RuleSet) (hb : b.Keyed) (field : String) :
    (a.merge b).rules.get? field =
      match b.rules.get? field with
      | some more => some (joinEntries (a.rules.get? field) more)
      | none => (a.rules.get? field).map fun e => .listed e.toList := by
  rw [merge_eq, FieldMap.get?_combine joinEntries _ hb.rules, get?_listEntries]
  cases b.rules.get? field with
  | none => rfl
  | some more =>
    cases a.rules.get? field <;> rfl

/-- The rules of either set are a part of the merged ones, so they can be read if those can. -/
theorem merge_isOk_iff (ha : a.Keyed) (hb : b.Keyed) :
    (∃ specs, readDeclared (a.merge b).declared = .ok specs) ↔
      (∃ specs, readDeclared a.declared = .ok specs) ∧
        ∃ specs, readDeclared b.declared = .ok specs := by
  constructor
  · intro hmerged
    have hparts := readDeclared_isOk_iff.mp hmerged
    refine ⟨readDeclared_isOk_iff.mpr ?_, readDeclared_isOk_iff.mpr ?_⟩
    · rintro ⟨field, entries⟩ hmem
      have hget := get?_rules_merge a hb field
      rw [FieldMap.get?_of_mem ha.rules hmem] at hget
      cases hmore : b.rules.get? field with
      | none =>
        rw [hmore] at hget
        exact hparts (field, .listed entries.toList) (FieldMap.mem_of_get? hget)
      | some more =>
        rw [hmore] at hget
        obtain ⟨specs, hread⟩ := hparts _ (FieldMap.mem_of_get? hget)
        obtain ⟨first, -, hfirst, -, -⟩ := readEntries_append_eq_ok_iff.mp hread
        exact ⟨first, hfirst⟩
    · rintro ⟨field, entries⟩ hmem
      have hget := get?_rules_merge a hb field
      rw [FieldMap.get?_of_mem hb.rules hmem] at hget
      obtain ⟨specs, hread⟩ := hparts _ (FieldMap.mem_of_get? hget)
      obtain ⟨-, more, -, hmore, -⟩ := readEntries_append_eq_ok_iff.mp hread
      exact ⟨more, hmore⟩
  · rintro ⟨⟨specsA, hreadA⟩, specsB, hreadB⟩
    exact ⟨_, reads_merge hreadA hreadB⟩

theorem merge_fault_iff (ha : a.Keyed) (hb : b.Keyed) :
    (∃ fault, readDeclared (a.merge b).declared = .error fault) ↔
      (∃ fault, readDeclared a.declared = .error fault) ∨
        ∃ fault, readDeclared b.declared = .error fault := by
  simp only [Fault.exists_error_iff, merge_isOk_iff ha hb, not_and_or]

end RuleSet

/-! ### Rules in one text -/

/-- The pieces of a text between its bars that have content. -/
def filledPieces (text : String) : List String := (split '|' text).filter fun t => !allBlank t

theorem readRules_filledPieces (text : String) :
    readRules (.list ((filledPieces text).map .text)) = readRules (.text text) := by
  have hfilled : (filledPieces text).map Entry.token =
      ((split '|' text).map Entry.token).filter fun e => !e.isBlank := by
    rw [List.filter_map]
    rfl
  calc readRules (.list ((filledPieces text).map .text))
    _ = readEntries ((filledPieces text).map .token) := readRules_tokens (filledPieces text)
    _ = readEntries ((split '|' text).map .token) := by rw [hfilled, readEntries_not_blank]
    _ = readRules (.text text) := (readTokens_eq (split '|' text)).symm

theorem split_filledPieces (text : String) :
    split '|' (joinTexts "|" (filledPieces text)) =
      if filledPieces text = [] then [""] else filledPieces text := by
  have hbars : ∀ piece ∈ (filledPieces text).map String.toList, '|' ∉ piece := by
    intro piece hpiece hbar
    obtain ⟨t, ht, rfl⟩ := List.mem_map.mp hpiece
    obtain ⟨cs, hcs, rfl⟩ := List.mem_map.mp (List.mem_filter.mp ht).1
    rw [String.toList_ofList] at hbar
    have hno := of_mem_piecesBy hcs '|' hbar
    simp at hno
  rw [split, joinTexts, String.toList_ofList, show "|".toList = ['|'] from rfl, pieces_join hbars]
  cases hfilled : filledPieces text with
  | nil => rfl
  | cons first rest => simp [Function.comp_def]

/-- A text and the text of its pieces with content are read alike. -/
theorem readRules_joined_filledPieces (text : String) :
    readRules (.text (joinTexts "|" (filledPieces text))) = readRules (.text text) := by
  rw [← readRules_filledPieces text]
  change readTokens (split '|' (joinTexts "|" (filledPieces text))) = _
  rw [split_filledPieces]
  split
  · next hnone =>
    rw [hnone]
    have hblank : (Entry.token "").isBlank = true := by decide
    rw [readTokens_eq, List.map_singleton, readEntries, Entry.read_of_isBlank hblank]
    rfl
  · rw [readTokens_eq, readRules_tokens]

/-- **Merging.** Of three sets the first two or the last two may be merged first. A merged set has
    the fields of the first set and behind them the new ones of the second; the rules of each field
    are read as those of the first set and behind them those of the second, and the rules of the
    merged set can be read iff those of both sets can. It makes no difference whether the rules of a
    field are a text or the list of its pieces, and whether blank ones are among them. -/
theorem merge_assoc_reads {a b c : RuleSet} (ha : a.Keyed) (hb : b.Keyed) (hc : c.Keyed) :
    (a.merge b).merge c = a.merge (b.merge c) ∧
    (∀ specsA specsB, readDeclared a.declared = .ok specsA → readDeclared b.declared = .ok specsB →
      ∃ specs, readDeclared (a.merge b).declared = .ok specs ∧
        specs.keys =
          a.rules.keys ++ b.rules.keys.filter (fun field => field ∉ a.rules.keys) ∧
        ∀ field, (specs.get? field).getD [] =
          (specsA.get? field).getD [] ++ (specsB.get? field).getD []) ∧
    ((∃ rule detail, readDeclared (a.merge b).declared = .error (.malformedRule rule detail)) ↔
      (∃ fault, readDeclared a.declared = .error fault) ∨
        ∃ fault, readDeclared b.declared = .error fault) ∧
    (∀ fault, readDeclared (a.merge b).declared = .error fault →
      ∃ rule detail, fault = .malformedRule rule detail) ∧
    (∀ text, readRules (.list ((split '|' text).map .text)) = readRules (.text text) ∧
      readRules (.list ((filledPieces text).map .text)) = readRules (.text text) ∧
      readRules (.text (joinTexts "|" (filledPieces text))) = readRules (.text text)) ∧
    ∀ entries, readRules (Entries.listed (entries.filter fun e => !e.isBlank)).toValue =
      readRules (Entries.listed entries).toValue := by
  refine ⟨RuleSet.merge_assoc ha hb hc, ?_, ?_, ?_, ?_, ?_⟩
  · intro specsA specsB hreadA hreadB
    have hkeysA : specsA.keys = a.rules.keys := keys_of_reads (readDeclared_eq_ok_iff.mp hreadA)
    have hkeysB : specsB.keys = b.rules.keys := keys_of_reads (readDeclared_eq_ok_iff.mp hreadB)
    have hnodup : specsB.keys.Nodup := hkeysB ▸ hb.rules
    refine ⟨specsA.combine joinSpecs specsB, RuleSet.reads_merge hreadA hreadB, ?_, ?_⟩
    · rw [FieldMap.keys_combine joinSpecs specsA hnodup, hkeysA, hkeysB]
    · intro field
      rw [FieldMap.get?_combine joinSpecs specsA hnodup]
      cases specsB.get? field with
      | none => simp
      | some more => rfl
  · rw [← RuleSet.merge_fault_iff ha hb]
    constructor
    · rintro ⟨rule, detail, h⟩
      exact ⟨_, h⟩
    · rintro ⟨fault, h⟩
      obtain ⟨rule, detail, rfl⟩ := readDeclared_fault h
      exact ⟨rule, detail, h⟩
  · intro fault h
    exact readDeclared_fault h
  · intro text
    refine ⟨?_, readRules_filledPieces text, readRules_joined_filledPieces text⟩
    exact (readRules_tokens (split '|' text)).trans (readTokens_eq (split '|' text)).symm
  · intro entries
    rw [readRules_toValue, readRules_toValue]
    exact readEntries_not_blank entries

/-- Two sets with a field in common, and a third one with a token that has no name. -/
theorem merge_assoc_reads_three :
    let a : RuleSet := ⟨"signup", by decide,
      [("mobile", .listed [.spec ⟨"Max", ["10"]⟩, .token " "]), ("email", .joined "|")],
      [("max", "too long")], []⟩
    let b : RuleSet := ⟨"strict", by decide,
      [("email", .listed [.spec ⟨"Max", ["3"]⟩]), ("nick", .listed [.spec ⟨"Min", ["2"]⟩])],
      [("max", "at most :max")], []⟩
    let c : RuleSet := ⟨"broken", by decide, [("mobile", .joined ":1")], [], []⟩
    a.Keyed ∧ b.Keyed ∧ c.Keyed ∧ (a.merge b).merge c = a.merge (b.merge c) ∧
      (∃ specs, readDeclared (a.merge b).declared = .ok specs ∧
        specs.keys = ["mobile", "email", "nick"] ∧
        (specs.get? "email").getD [] = [⟨"Max", ["3"]⟩]) ∧
      ∃ rule detail, readDeclared (b.merge c).declared = .error (.malformedRule rule detail) := by
  intro a b c
  have ha : a.Keyed := ⟨by decide, by decide, by decide⟩
  have hb : b.Keyed := ⟨by decide, by decide, by decide⟩
  have hc : c.Keyed := ⟨by decide, by decide, by decide⟩
  have hreadA : readDeclared a.declared = .ok [("mobile", [⟨"Max", ["10"]⟩]), ("email", [])] := by
    cbv
  have hreadB : readDeclared b.declared =
      .ok [("email", [⟨"Max", ["3"]⟩]), ("nick", [⟨"Min", ["2"]⟩])] := by
    cbv
  have hreadC : ∃ fault, readDeclared c.declared = .error fault := ⟨_, by cbv⟩
  obtain ⟨hassoc, hreads, -⟩ := merge_assoc_reads ha hb hc
  obtain ⟨-, -, hfaults, -⟩ := merge_assoc_reads hb hc ha
  obtain ⟨specs, hmerged, hkeys, hspecs⟩ := hreads _ _ hreadA hreadB
  refine ⟨ha, hb, hc, hassoc, ⟨specs, hmerged, hkeys.trans (by decide), hspecs "email"⟩, ?_⟩
  exact hfaults.mpr (Or.inr hreadC)

end PayloadCheck.Rule
