import PayloadCheck.Proofs.Check.Bags
import PayloadCheck.Proofs.Check.Locality
import PayloadCheck.Proofs.FieldMap

/-!
# Parted payloads

The two bags part a payload by what counts as a file (`parts_ofPayload`). A value that is no file is
found under its whole key in either way of looking, one that is a file only where the files are
looked at too. So the files leave no trace among the data: payloads with the same values that are no
files show the same under every path, and the checks that look at a field among the data decide
alike over them (`files_stay_apart`).
-/

namespace PayloadCheck.Check

open PayloadCheck.Rule PayloadCheck.Text

/-! ### The bags of a payload -/

namespace Bags

/-- The bags hold the entries of a payload, each in the bag of its kind, in the payload's order and
in no other bag. -/
structure Parts (b : Bags) (payload : FieldMap Value) : Prop where
  mem_data_iff : ∀ entry, entry ∈ b.data ↔ entry ∈ payload ∧ b.isFile entry.2 = false
  mem_files_iff : ∀ entry, entry ∈ b.files ↔ entry ∈ payload ∧ b.isFile entry.2 = true
  disjoint : b.data.keys.Disjoint b.files.keys
  data_sublist : b.data.Sublist payload
  files_sublist : b.files.Sublist payload
  perm : (b.data ++ b.files).Perm payload

variable {payload : FieldMap Value} {isFile : Value → Bool}

theorem mem_data_ofPayload {entry : String × Value} :
    entry ∈ (ofPayload payload isFile).data ↔ entry ∈ payload ∧ isFile entry.2 = false := by
  simp [ofPayload]

theorem mem_files_ofPayload {entry : String × Value} :
    entry ∈ (ofPayload payload isFile).files ↔ entry ∈ payload ∧ isFile entry.2 = true := by
  simp [ofPayload]

theorem nodup_keys_data (hkeys : payload.keys.Nodup) :
    (ofPayload payload isFile).data.keys.Nodup :=
  FieldMap.nodup_keys_filter hkeys _

theorem nodup_keys_files (hkeys : payload.keys.Nodup) :
    (ofPayload payload isFile).files.keys.Nodup :=
  FieldMap.nodup_keys_filter hkeys _

theorem not_mem_keys_data (hkeys : payload.keys.Nodup) {key : String} {v : Value}
    (hmem : (key, v) ∈ payload) (hfile : isFile v = true) :
    key ∉ (ofPayload payload isFile).data.keys := by
  intro hkey
  obtain ⟨⟨other, w⟩, hw, rfl⟩ := List.mem_map.mp hkey
  obtain ⟨hpayload, hplain⟩ := mem_data_ofPayload.mp hw
  have hsame : w = v := by
    have hv := FieldMap.get?_of_mem hkeys hmem
    rw [FieldMap.get?_of_mem hkeys hpayload] at hv
    exact Option.some.inj hv
  rw [hsame, hfile] at hplain
  cases hplain

theorem parts_ofPayload (hkeys : payload.keys.Nodup) : (ofPayload payload isFile).Parts payload where
  mem_data_iff _ := mem_data_ofPayload
  mem_files_iff _ := mem_files_ofPayload
  disjoint := by
    intro key hdata hfiles
    obtain ⟨⟨_, v⟩, hv, rfl⟩ := List.mem_map.mp hfiles
    obtain ⟨hmem, hfile⟩ := mem_files_ofPayload.mp hv
    exact not_mem_keys_data hkeys hmem hfile hdata
  data_sublist := List.filter_sublist
  files_sublist := List.filter_sublist
  perm := by
    have hperm := List.filter_append_perm (fun entry : String × Value => !isFile entry.2) payload
    simpa only [ofPayload, Bool.not_not] using hperm

/-! ### Lookups in the bags -/

theorem field?_bag (bag : FieldMap Value) (key : String) :
    Value.field? key (bag.map fun (k, v) => (.text k, v)) = bag.get? key := by
  induction bag with
  | nil => rfl
  | cons entry rest ih =>
    obtain ⟨k, v⟩ := entry
    by_cases hk : k = key
    · subst hk
      simp [Value.field?, FieldMap.get?_cons_self]
    · rw [FieldMap.get?_cons_of_ne (Ne.symm hk), ← ih]
      simp [Value.field?, hk]

theorem get_bagValue_of_get? {bag : FieldMap Value} {path : String} {v : Value}
    (h : bag.get? path = some v) : (bagValue bag).get path = .ok v := by
  rw [← field?_bag] at h
  simp only [bagValue, Value.get, h]

theorem get_bagValue_of_undotted {bag : FieldMap Value} {path : String}
    (hpath : '.' ∉ path.toList) (h : path ∉ bag.keys) :
    (bagValue bag).get path = .ok .absent := by
  apply Value.get_map_of_undotted hpath
  rw [field?_bag]
  exact FieldMap.get?_eq_none_iff.mpr h

theorem get_bagValue_congr {bag other : FieldMap Value} (h : ∀ key, bag.get? key = other.get? key)
    (path : String) : (bagValue bag).get path = (bagValue other).get path := by
  apply Value.get_map_congr
  intro key
  rw [field?_bag, field?_bag]
  exact h key

theorem found_of_plain (hkeys : payload.keys.Nodup) {key : String} {v : Value}
    (hmem : (key, v) ∈ payload) (hplain : isFile v = false) (hv : v ≠ .absent) :
    (ofPayload payload isFile).value key = .ok v ∧
      (ofPayload payload isFile).dataValue key = .ok v := by
  have hdata : (ofPayload payload isFile).dataValue key = .ok v :=
    get_bagValue_of_get?
      (FieldMap.get?_of_mem (nodup_keys_data hkeys) (mem_data_ofPayload.mpr ⟨hmem, hplain⟩))
  exact ⟨value_eq_dataValue hdata hv, hdata⟩

theorem found_of_file (hkeys : payload.keys.Nodup) {key : String} {v : Value}
    (hmem : (key, v) ∈ payload) (hfile : isFile v = true) (hkey : '.' ∉ key.toList) :
    (ofPayload payload isFile).value key = .ok v ∧
      (ofPayload payload isFile).dataValue key = .ok .absent := by
  have hdata : (ofPayload payload isFile).dataValue key = .ok .absent :=
    get_bagValue_of_undotted hkey (not_mem_keys_data hkeys hmem hfile)
  refine ⟨?_, hdata⟩
  rw [value_eq_fileValue hdata]
  exact get_bagValue_of_get?
    (FieldMap.get?_of_mem (nodup_keys_files hkeys) (mem_files_ofPayload.mpr ⟨hmem, hfile⟩))

/-- Payloads with the same values that are no files, in whatever order, show the same data. -/
theorem dataValue_congr {other : FieldMap Value} (hkeys : payload.keys.Nodup)
    (hother : other.keys.Nodup)
    (hsame : ∀ entry, isFile entry.2 = false → (entry ∈ payload ↔ entry ∈ other)) (path : String) :
    (ofPayload payload isFile).dataValue path = (ofPayload other isFile).dataValue path := by
  apply get_bagValue_congr
  apply FieldMap.get?_congr (nodup_keys_data hkeys) (nodup_keys_data hother)
  intro entry
  rw [mem_data_ofPayload, mem_data_ofPayload]
  exact and_congr_left (hsame entry)

end Bags

/-! ### Checks that look at a field among the data -/

/-- A check that sees nothing of its surroundings but the data. -/
def Check.SeesData (check : Check) : Prop :=
  ∀ c d field v ps, (∀ path, c.dataValue path = d.dataValue path) →
    check.run c field v ps = check.run d field v ps

/-- Keys of the checks that look at a field among the data. -/
def siblingKeys : List String := ["same", "different", "confirmed", "requiredif"]

theorem seesData_deciding {name : String} {arity : Nat}
    {decide : Context → String → Value → List String → Except Fault Bool}
    (h : ∀ c d field v ps, (∀ path, c.dataValue path = d.dataValue path) →
      decide c field v ps = decide d field v ps) :
    (Check.deciding name arity decide).SeesData :=
  fun c d field v ps hdata => congrArg Verdict.of (h c d field v ps hdata)

theorem seesData_comparisonChecks : ∀ check ∈ comparisonChecks, check.SeesData := by
  simp only [comparisonChecks, List.forall_mem_cons, List.not_mem_nil, false_imp_iff, implies_true,
    and_true]
  refine ⟨?_, ?_, ?_, ?_, ?_⟩ <;> apply seesData_deciding <;> intro c d field v ps h
  · simp only [comparesTo, h]
  · simp only [comparesTo, h]
  · simp only [comparesTo, h]
  · rfl
  · rfl

theorem seesData_requiredIf : requiredChecks[3].SeesData := by
  apply seesData_deciding
  intro c d field v ps h
  simp only [h]

/-- The built-in checks under those keys are found, and see nothing but the data. -/
theorem seesData_of_key (resolves : List Char → Bool) {name : String}
    (h : Rule.key name ∈ siblingKeys) :
    ∃ check, (builtinFor resolves).find? name = some check ∧ check.SeesData := by
  have hcomparison : ∀ check ∈ comparisonChecks, Rule.key name = check.key →
      ∃ check, (builtinFor resolves).find? name = some check ∧ check.SeesData := by
    intro check hmem hkey
    exact ⟨check, find?_builtinFor_of_mem (comparisonChecks_subset resolves hmem) hkey,
      seesData_comparisonChecks check hmem⟩
  have hown : ∀ own ∈ ["same", "different", "confirmed"], Rule.key own = own := by
    have hchars : ∀ own ∈ ["same", "different", "confirmed"],
        lowerAfter [] (identifierChars own.toList) = own.toList := by decide
    exact fun own hmem => key_of_chars (hchars own hmem)
  simp only [siblingKeys, List.mem_cons, List.not_mem_nil, or_false] at h
  rcases h with hkey | hkey | hkey | hkey
  · exact hcomparison comparisonChecks[0] (List.getElem_mem _)
      (hkey.trans (hown "same" (by decide)).symm)
  · exact hcomparison comparisonChecks[1] (List.getElem_mem _)
      (hkey.trans (hown "different" (by decide)).symm)
  · exact hcomparison comparisonChecks[2] (List.getElem_mem _)
      (hkey.trans (hown "confirmed" (by decide)).symm)
  · have hrequiredIf : Rule.key "required_if" = "requiredif" := key_of_chars (by decide)
    exact ⟨requiredChecks[3], find?_builtinFor_of_mem
      (requiredChecks_subset resolves (List.getElem_mem _)) (hkey.trans hrequiredIf.symm),
      seesData_requiredIf⟩

/-- **Parted payloads.** The bags part a payload by what counts as a file. A value that is no file
    is found under its whole key in either way of looking; a file under a key without points is
    found among both bags and not among the data. Payloads with the same values that are no files
    show the same data under every path, so the checks that look at a field among the data decide
    alike over them. -/
theorem files_stay_apart {payload : FieldMap Value} (hkeys : payload.keys.Nodup)
    (isFile : Value → Bool) :
    let b := Bags.ofPayload payload isFile
    b.Parts payload ∧
    (∀ key v, (key, v) ∈ payload → isFile v = false → v ≠ .absent →
      b.value key = .ok v ∧ b.dataValue key = .ok v) ∧
    (∀ key v, (key, v) ∈ payload → isFile v = true → '.' ∉ key.toList →
      b.value key = .ok v ∧ b.dataValue key = .ok .absent) ∧
    ∀ other : FieldMap Value, other.keys.Nodup →
      (∀ entry, isFile entry.2 = false → (entry ∈ payload ↔ entry ∈ other)) →
      (∀ path, b.dataValue path = (Bags.ofPayload other isFile).dataValue path) ∧
      ∀ resolves name, Rule.key name ∈ siblingKeys →
        ∃ check, (builtinFor resolves).find? name = some check ∧
          ∀ c d : Context, c.bags = b → d.bags = Bags.ofPayload other isFile →
            ∀ field v ps, check.run c field v ps = check.run d field v ps := by
  intro b
  refine ⟨Bags.parts_ofPayload hkeys, fun key v => Bags.found_of_plain hkeys,
    fun key v => Bags.found_of_file hkeys, ?_⟩
  intro other hother hsame
  have hdata := Bags.dataValue_congr hkeys hother hsame
  refine ⟨hdata, ?_⟩
  intro resolves name hname
  obtain ⟨check, hfind, hsees⟩ := seesData_of_key resolves hname
  refine ⟨check, hfind, ?_⟩
  intro c d hc hd field v ps
  apply hsees
  intro path
  rw [Context.dataValue, Context.dataValue, hc, hd]
  exact hdata path

/-- A picture beside a name whose key holds a point, and another picture in its place. -/
theorem files_stay_apart_picture :
    let picture : Value := .upload ⟨"/tmp/a.png", 2048, true, none, none⟩
    let scan : Value := .upload ⟨"/tmp/b.png", 1, true, none, none⟩
    let payload : FieldMap Value := [("picture", picture), ("user.name", .text "li")]
    let other : FieldMap Value := [("user.name", .text "li"), ("scan", scan)]
    let b := Bags.ofPayload payload isUpload
    payload.keys.Nodup ∧ other.keys.Nodup ∧
      b.dataValue "user.name" = .ok (.text "li") ∧
      b.value "picture" = .ok picture ∧ b.dataValue "picture" = .ok .absent ∧
      ∀ path, b.dataValue path = (Bags.ofPayload other isUpload).dataValue path := by
  intro picture scan payload other b
  have hpayload : payload.keys.Nodup := by decide
  have hother : other.keys.Nodup := by decide
  obtain ⟨-, hplain, hfile, hsame⟩ := files_stay_apart hpayload isUpload
  have hname : ("user.name", Value.text "li") ∈ payload := by simp [payload]
  have hpicture : ("picture", picture) ∈ payload := by simp [payload]
  obtain ⟨hfound, hhidden⟩ := hfile _ _ hpicture rfl (by decide)
  refine ⟨hpayload, hother, (hplain _ _ hname rfl (by simp)).2, hfound, hhidden,
    (hsame other hother ?_).1⟩
  rintro ⟨key, v⟩ hv
  have hnone : ∀ u, v ≠ .upload u := by
    rintro u rfl
    cases hv
  simp [payload, other, picture, scan, hnone]

end PayloadCheck.Check
