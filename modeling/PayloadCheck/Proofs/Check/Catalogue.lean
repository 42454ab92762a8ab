import PayloadCheck.Check.Builtin
import PayloadCheck.Proofs.FieldMap

/-!
# What catalogues find, and which of their checks ask

A check registered last is found under its key, whatever was registered before. A catalogue of a
list holds checks of that list only. Among the built-in checks those on stored records are the only
ones that ask the store (`builtin_asksOnlyFor`).
-/

namespace PayloadCheck.Check

open PayloadCheck.Rule PayloadCheck.Text

namespace Catalogue

/-! ### Registration -/

theorem find?_register_self (c : Catalogue) (check : Check) {name : String}
    (h : Rule.key name = check.key) : (c.register check).find? name = some check := by
  simp only [find?, register, h]
  exact FieldMap.get?_insert_self c.checks check.key check

theorem find?_register_of_ne (c : Catalogue) (check : Check) {name : String}
    (h : Rule.key name ≠ check.key) : (c.register check).find? name = c.find? name := by
  simp only [find?, register]
  exact FieldMap.get?_insert_of_ne c.checks check h

theorem find?_extend_of_ne {checks : List Check} {name : String}
    (hne : ∀ check ∈ checks, Rule.key name ≠ check.key) (c : Catalogue) :
    (c.extend checks).find? name = c.find? name := by
  unfold extend
  induction checks generalizing c with
  | nil => rfl
  | cons first rest ih =>
    obtain ⟨hfirst, hrest⟩ := List.forall_mem_cons.mp hne
    rw [List.foldl_cons, ih hrest, c.find?_register_of_ne first hfirst]

/-- Where no two of the checks share a key, each is found under every name of its key. -/
theorem find?_extend_of_mem {checks : List Check} (hnodup : (checks.map Check.key).Nodup)
    {check : Check} (hmem : check ∈ checks) {name : String} (hkey : Rule.key name = check.key)
    (c : Catalogue) : (c.extend checks).find? name = some check := by
  unfold extend
  induction checks generalizing c with
  | nil => cases hmem
  | cons first rest ih =>
    rw [List.map_cons, List.nodup_cons] at hnodup
    rw [List.foldl_cons]
    rcases List.mem_cons.mp hmem with rfl | hrest
    · have hne : ∀ other ∈ rest, Rule.key name ≠ other.key := by
        intro other hother heq
        exact hnodup.1 (List.mem_map.mpr ⟨other, hother, heq.symm.trans hkey⟩)
      exact (find?_extend_of_ne hne (c.register check)).trans (c.find?_register_self check hkey)
    · exact ih hnodup.2 hrest (c.register first)

/-- The entries of an extended catalogue are old entries, or new checks under their keys. -/
theorem mem_extend {c : Catalogue} {checks : List Check} {entry : String × Check}
    (h : entry ∈ (c.extend checks).checks) :
    entry ∈ c.checks ∨ (entry.2 ∈ checks ∧ entry.1 = entry.2.key) := by
  unfold extend at h
  induction checks generalizing c with
  | nil => exact Or.inl h
  | cons check rest ih =>
    rcases ih h with hold | ⟨hmem, hkey⟩
    · rcases FieldMap.mem_insert hold with rfl | hold
      · exact Or.inr ⟨List.mem_cons_self .., rfl⟩
      · exact Or.inl hold
    · exact Or.inr ⟨List.mem_cons_of_mem _ hmem, hkey⟩

theorem mem_of_find? {c : Catalogue} {name : String} {check : Check}
    (h : c.find? name = some check) : (Rule.key name, check) ∈ c.checks :=
  FieldMap.mem_of_get? h

/-- What the catalogue of a list finds under a name is a check of the list with the name's key. -/
theorem mem_of_find?_ofList {checks : List Check} {name : String} {check : Check}
    (h : (ofList checks).find? name = some check) : check ∈ checks ∧ Rule.key name = check.key := by
  rcases mem_extend (mem_of_find? h) with hmem | hnew
  · cases hmem
  · exact hnew

theorem checks_extend (c : Catalogue) (checks : List Check) :
    (c.extend checks).checks =
      c.checks.merge (checks.map fun check => (check.key, check)) := by
  induction checks generalizing c with
  | nil => rfl
  | cons check rest ih => exact ih (c.register check)

theorem checks_ofList (checks : List Check) :
    (ofList checks).checks = FieldMap.ofList (checks.map fun check => (check.key, check)) :=
  checks_extend empty checks

/-- The catalogue of a list holds every key once, where it came first. -/
theorem keys_ofList (checks : List Check) :
    (ofList checks).keys = (checks.map Check.key).eraseDups := by
  rw [keys, checks_ofList, FieldMap.keys_ofList, List.map_map]
  rfl

/-- The catalogue of a list finds the last check that has the key of a name. -/
theorem find?_ofList (checks : List Check) (name : String) :
    (ofList checks).find? name =
      (checks.filter fun check => check.key == Rule.key name).getLast? := by
  rw [find?, checks_ofList, FieldMap.get?_ofList, List.filter_map, List.map_map]
  simp only [Function.comp_def, List.map_id']
  rfl

theorem nodup_keys_ofList (checks : List Check) : (ofList checks).keys.Nodup := by
  rw [keys, checks_ofList]
  exact FieldMap.nodup_keys_ofList _

theorem find?_of_lookUp {c : Catalogue} {rule : Spec} {field : String} {check : Check}
    (h : c.lookUp rule field = .ok check) : c.find? rule.name = some check := by
  unfold lookUp at h
  split at h
  · next found hfound =>
    cases h
    exact hfound
  · cases h

theorem lookUp_of_find? {c : Catalogue} {rule : Spec} {check : Check}
    (h : c.find? rule.name = some check) (field : String) : c.lookUp rule field = .ok check := by
  simp only [lookUp, h]

theorem forM_lookUp_eq_ok_iff {c : Catalogue} (field : String) {specs : List Spec} :
    (specs.forM fun rule => (fun _ => ()) <$> c.lookUp rule field) = .ok () ↔
      ∀ rule ∈ specs, ∃ check, c.find? rule.name = some check := by
  induction specs with
  | nil => exact ⟨fun _ rule hrule => (by cases hrule), fun _ => rfl⟩
  | cons spec more ih =>
    rw [List.forall_mem_cons, ← ih]
    constructor
    · intro h
      obtain ⟨_, hspec, hmore⟩ := Fault.bind_eq_ok_iff.mp h
      refine ⟨?_, hmore⟩
      cases hlook : c.lookUp spec field with
      | error fault =>
        simp only [hlook] at hspec
        cases hspec
      | ok check => exact ⟨check, find?_of_lookUp hlook⟩
    · rintro ⟨⟨check, hfind⟩, hmore⟩
      refine Fault.bind_eq_ok_iff.mpr ⟨(), ?_, hmore⟩
      simp only [lookUp_of_find? hfind field]
      rfl

/-- The rules are known iff each of them finds a check. -/
theorem checkKnown_eq_ok_iff {c : Catalogue} {rules : RuleMap} :
    c.checkKnown rules = .ok () ↔
      ∀ entry ∈ rules, ∀ rule ∈ entry.2, ∃ check, c.find? rule.name = some check := by
  induction rules with
  | nil => exact ⟨fun _ entry hentry => (by cases hentry), fun _ => rfl⟩
  | cons first rest ih =>
    rw [List.forall_mem_cons, ← ih, ← forM_lookUp_eq_ok_iff first.1]
    constructor
    · intro h
      obtain ⟨_, hknown, hrest⟩ := Fault.bind_eq_ok_iff.mp h
      exact ⟨hknown, hrest⟩
    · rintro ⟨hknown, hrest⟩
      exact Fault.bind_eq_ok_iff.mpr ⟨(), hknown, hrest⟩

end Catalogue

/-! ### Checks that ask -/

/-- A check that never asks the store. -/
def Check.Decides (check : Check) : Prop :=
  ∀ context field v ps q judge, check.run context field v ps ≠ .asks q judge

/-- The keys under which a catalogue finds checks that may ask the store. -/
def Catalogue.AsksOnlyFor (c : Catalogue) (keys : List String) : Prop :=
  ∀ name check, c.find? name = some check → check.Decides ∨ Rule.key name ∈ keys

/-- Own checks that decide by themselves add nothing to what is asked. -/
theorem Catalogue.AsksOnlyFor.extend {c : Catalogue} {keys : List String} (h : c.AsksOnlyFor keys)
    {checks : List Check} (hdecides : ∀ check ∈ checks, check.Decides) :
    (c.extend checks).AsksOnlyFor keys := by
  unfold Catalogue.extend
  induction checks generalizing c with
  | nil => exact h
  | cons check rest ih =>
    refine ih ?_ fun other hmem => hdecides other (List.mem_cons_of_mem _ hmem)
    intro name found hfind
    by_cases hkey : Rule.key name = check.key
    · rw [c.find?_register_self check hkey] at hfind
      cases hfind
      exact Or.inl (hdecides check (List.mem_cons_self ..))
    · rw [c.find?_register_of_ne check hkey] at hfind
      exact h name found hfind

theorem decides_deciding (name : String) (arity : Nat)
    (decide : Context → String → Value → List String → Except Fault Bool) :
    (Check.deciding name arity decide).Decides := by
  intro context field v ps q judge
  simp only [Check.deciding]
  cases decide context field v ps <;> simp [Verdict.of]

/-- The built-in checks outside the family on stored records decide by themselves. -/
theorem decides_of_mem_builtinChecks {resolves : List Char → Bool} {check : Check}
    (h : check ∈ builtinChecks resolves) : check.Decides ∨ check ∈ storedChecks := by
  have hrequired : ∀ c ∈ requiredChecks, c.Decides := by simp [requiredChecks, decides_deciding]
  have hcomparison : ∀ c ∈ comparisonChecks, c.Decides := by
    simp [comparisonChecks, decides_deciding]
  have hnumeric : ∀ c ∈ numericChecks, c.Decides := by simp [numericChecks, decides_deciding]
  have hpattern : ∀ c ∈ patternChecks resolves, c.Decides := by
    simp [patternChecks, activeUrlCheck, decides_deciding]
  have hdate : ∀ c ∈ dateChecks, c.Decides := by simp [dateChecks, decides_deciding]
  have hfile : ∀ c ∈ fileChecks, c.Decides := by simp [fileChecks, decides_deciding]
  simp only [builtinChecks, List.mem_append] at h
  rcases h with (((((h | h) | h) | h) | h) | h) | h
  · exact Or.inl (hrequired check h)
  · exact Or.inl (hcomparison check h)
  · exact Or.inl (hnumeric check h)
  · exact Or.inl (hpattern check h)
  · exact Or.inl (hdate check h)
  · exact Or.inl (hfile check h)
  · exact Or.inr h

theorem key_uniqueCheck : uniqueCheck.key = "unique" :=
  (key_of_chars (by decide) : Rule.key "unique" = "unique")

theorem key_existsCheck : existsCheck.key = "exists" :=
  (key_of_chars (by decide) : Rule.key "exists" = "exists")

/-- Only `unique` and `exists` ask the store. -/
theorem builtin_asksOnlyFor (resolves : List Char → Bool) :
    (builtinFor resolves).AsksOnlyFor ["unique", "exists"] := by
  intro name check hfind
  obtain ⟨hmem, hkey⟩ := Catalogue.mem_of_find?_ofList hfind
  refine (decides_of_mem_builtinChecks hmem).imp_right fun hstored => ?_
  rw [hkey]
  simp only [storedChecks, List.mem_cons, List.not_mem_nil, or_false] at hstored
  rcases hstored with rfl | rfl
  · rw [key_uniqueCheck]; simp
  · rw [key_existsCheck]; simp

theorem names_builtinChecks (resolves : List Char → Bool) :
    (builtinChecks resolves).map Check.name =
      ["required", "accepted", "sometimes", "required_if", "required_with", "required_with_all",
       "required_without", "required_without_all", "same", "different", "confirmed", "in", "not_in",
       "numeric", "integer", "array", "digits", "digits_between", "size", "between", "min", "max",
       "regex", "email", "url", "active_url", "ip", "alpha", "alpha_num", "alpha_dash", "date",
       "date_format", "before", "after", "mimes", "image", "unique", "exists"] := rfl

/-- No two of the built-in checks share a key. -/
theorem nodup_keys_builtinChecks (resolves : List Char → Bool) :
    ((builtinChecks resolves).map Check.key).Nodup := by
  have hkeys : (builtinChecks resolves).map Check.key =
      (((builtinChecks resolves).map Check.name).map fun name =>
        lowerAfter [] (identifierChars name.toList)).map String.ofList := by
    simp only [List.map_map]
    exact List.map_congr_left fun check _ => key_eq_ofList check.name
  rw [hkeys]
  have hapart : (((builtinChecks resolves).map Check.name).map fun name =>
      lowerAfter [] (identifierChars name.toList)).Nodup := by
    rw [names_builtinChecks]
    decide +kernel
  exact List.Pairwise.map String.ofList (fun _ _ hne heq => hne (String.ofList_injective heq)) hapart

/-- The built-in catalogue finds each of its checks under every spelling of its name. -/
theorem find?_builtinFor_of_mem {resolves : List Char → Bool} {check : Check}
    (hmem : check ∈ builtinChecks resolves) {name : String} (hkey : Rule.key name = check.key) :
    (builtinFor resolves).find? name = some check :=
  Catalogue.find?_extend_of_mem (nodup_keys_builtinChecks resolves) hmem hkey .empty

theorem requiredChecks_subset (resolves : List Char → Bool) :
    requiredChecks ⊆ builtinChecks resolves := by
  intro check hmem
  simp only [builtinChecks, List.mem_append, hmem, true_or]

theorem comparisonChecks_subset (resolves : List Char → Bool) :
    comparisonChecks ⊆ builtinChecks resolves := by
  intro check hmem
  simp only [builtinChecks, List.mem_append, hmem, true_or, or_true]

theorem numericChecks_subset (resolves : List Char → Bool) :
    numericChecks ⊆ builtinChecks resolves := by
  intro check hmem
  simp only [builtinChecks, List.mem_append, hmem, true_or, or_true]

theorem patternChecks_subset (resolves : List Char → Bool) :
    patternChecks resolves ⊆ builtinChecks resolves := by
  intro check hmem
  simp only [builtinChecks, List.mem_append, hmem, true_or, or_true]

/-- The built-in catalogue finds the check `unique` under every spelling of its name. -/
theorem find?_builtin_unique {resolves : List Char → Bool} {name : String}
    (h : Rule.key name = "unique") : (builtinFor resolves).find? name = some uniqueCheck :=
  find?_builtinFor_of_mem (List.mem_append_right _ (List.mem_cons_self ..))
    (h.trans key_uniqueCheck.symm)

/-- The built-in catalogue finds the check `exists` under every spelling of its name. -/
theorem find?_builtin_exists {resolves : List Char → Bool} {name : String}
    (h : Rule.key name = "exists") : (builtinFor resolves).find? name = some existsCheck :=
  find?_builtinFor_of_mem
    (List.mem_append_right _ (List.mem_cons_of_mem _ (List.mem_cons_self ..)))
    (h.trans key_existsCheck.symm)

/-- The built-in catalogue finds the check `mimes` under every spelling of its name. -/
theorem find?_builtin_mimes {resolves : List Char → Bool} {name : String}
    (h : Rule.key name = "mimes") : (builtinFor resolves).find? name =
      some (.deciding "mimes" 1 fun c _ v ps => hasEnding c v ps) := by
  have hkey : Rule.key "mimes" = "mimes" := key_of_chars (by decide)
  exact find?_builtinFor_of_mem
    (List.mem_append_left _ (List.mem_append_right _ (List.mem_cons_self ..))) (h.trans hkey.symm)

end PayloadCheck.Check
