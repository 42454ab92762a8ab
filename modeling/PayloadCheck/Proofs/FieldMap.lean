import Mathlib.Data.List.Nodup
import PayloadCheck.FieldMap

/-!
# Maps combined

Two maps are combined by going through the second one: what it has under a key is put together with
what the first one has there. The keys of the first keep their places and the new ones follow in
their order (`keys_combine`), and every value depends on the two values under its key alone
(`get?_combine`). A map of different keys is known by its keys and its values (`ext_of_get?`), so
combining is associative as soon as putting values together is (`combine_assoc`).
-/

namespace PayloadCheck.FieldMap

variable {α β : Type}

def combine (op : Option α → β → α) (a : FieldMap α) (b : FieldMap β) : FieldMap α :=
  b.foldl (fun m (key, v) => m.alter key (op · v)) a

theorem combine_cons (op : Option α → β → α) (a : FieldMap α) (key : String) (v : β)
    (rest : FieldMap β) :
    combine op a ((key, v) :: rest) = combine op (a.alter key (op · v)) rest := rfl

/-! ### Maps by their keys and values -/

theorem ext_of_get? {a b : FieldMap α} (ha : a.keys.Nodup) (hkeys : a.keys = b.keys)
    (hget : ∀ key, a.get? key = b.get? key) : a = b := by
  induction a generalizing b with
  | nil =>
    cases b with
    | nil => rfl
    | cons first more => simp [keys] at hkeys
  | cons entry rest ih =>
    obtain ⟨k, v⟩ := entry
    cases b with
    | nil => simp [keys] at hkeys
    | cons first more =>
      obtain ⟨k', w⟩ := first
      obtain ⟨rfl, hmore⟩ : k = k' ∧ keys rest = keys more := by simpa [keys] using hkeys
      obtain ⟨hk, hrest⟩ := nodup_keys_cons.mp ha
      have hvalue : v = w := by
        have h := hget k
        rw [get?_cons_self, get?_cons_self] at h
        exact Option.some.inj h
      have htail : rest = more := by
        apply ih hrest hmore
        intro key
        by_cases hkey : key = k
        · subst hkey
          rw [get?_eq_none_iff.mpr hk, get?_eq_none_iff.mpr (hmore ▸ hk)]
        · have h := hget key
          rwa [get?_cons_of_ne hkey, get?_cons_of_ne hkey] at h
      rw [hvalue, htail]

theorem get?_of_mem {m : FieldMap α} (hm : m.keys.Nodup) {key : String} {v : α}
    (h : (key, v) ∈ m) : m.get? key = some v := by
  induction m with
  | nil => cases h
  | cons entry rest ih =>
    obtain ⟨k, w⟩ := entry
    obtain ⟨hk, hrest⟩ := nodup_keys_cons.mp hm
    rcases List.mem_cons.mp h with heq | hmem
    · obtain ⟨rfl, rfl⟩ := Prod.mk.inj heq
      exact get?_cons_self key v rest
    · have hne : key ≠ k := by
        rintro rfl
        exact hk (List.mem_map_of_mem hmem)
      rw [get?_cons_of_ne hne]
      exact ih hrest hmem

theorem get?_eq_some_iff {m : FieldMap α} (hm : m.keys.Nodup) {key : String} {v : α} :
    m.get? key = some v ↔ (key, v) ∈ m :=
  ⟨mem_of_get?, get?_of_mem hm⟩

/-- Maps of the same entries have the same values, in whatever order the entries come. -/
theorem get?_congr {a b : FieldMap α} (ha : a.keys.Nodup) (hb : b.keys.Nodup)
    (h : ∀ entry, entry ∈ a ↔ entry ∈ b) (key : String) : a.get? key = b.get? key := by
  refine Option.ext fun v => ?_
  rw [get?_eq_some_iff ha, get?_eq_some_iff hb]
  exact h (key, v)

theorem nodup_keys_filter {m : FieldMap α} (hm : m.keys.Nodup) (p : String × α → Bool) :
    (keys (m.filter p)).Nodup :=
  (List.filter_sublist.map Prod.fst).nodup hm

theorem nodup_keys_alter {m : FieldMap α} {key : String} (f : Option α → α)
    (hm : m.keys.Nodup) : (m.alter key f).keys.Nodup := by
  by_cases hkey : key ∈ m.keys
  · rw [keys_alter_of_mem f hkey]
    exact hm
  · rw [alter_of_not_mem f hkey]
    simpa [keys, List.nodup_append] using
      ⟨hm, fun other v hmem heq => hkey (heq ▸ List.mem_map_of_mem hmem)⟩

/-! ### What combining does -/

variable (op : Option α → β → α)

/-- The keys of the first map stay, and every new key comes once, where it came first. -/
theorem keys_combine_eraseDups (a : FieldMap α) (b : FieldMap β) :
    (combine op a b).keys = a.keys ++ (b.keys.filter fun key => key ∉ a.keys).eraseDups := by
  induction b generalizing a with
  | nil => simp [combine, keys]
  | cons entry rest ih =>
    obtain ⟨k, v⟩ := entry
    rw [combine_cons, ih]
    by_cases hmem : k ∈ a.keys
    · rw [keys_alter_of_mem _ hmem]
      simp [keys, show k ∈ a.map Prod.fst from hmem]
    · have hnew : (a.alter k (op · v)).keys = a.keys ++ [k] := by
        rw [alter_of_not_mem _ hmem]
        simp [keys]
      have hfilter : ((keys rest).filter fun key => key ∉ a.keys ++ [k]) =
          ((keys rest).filter fun key => key ∉ a.keys).filter fun key => !key == k := by
        rw [List.filter_filter]
        apply List.filter_congr
        intro key _
        by_cases hk : key = k <;> simp [hk]
      have hcons : (keys ((k, v) :: rest)).filter (fun key => key ∉ a.keys) =
          k :: (keys rest).filter fun key => key ∉ a.keys := by
        simp [keys, show k ∉ a.map Prod.fst from hmem]
      rw [hnew, hfilter, hcons, List.eraseDups_cons, List.append_assoc, List.singleton_append]

theorem eraseDups_of_nodup {names : List String} (h : names.Nodup) : names.eraseDups = names := by
  induction names with
  | nil => rfl
  | cons name rest ih =>
    obtain ⟨hname, hrest⟩ := List.nodup_cons.mp h
    have hkept : rest.filter (fun other => !other == name) = rest := by
      refine List.filter_eq_self.mpr fun other hother => ?_
      simpa using fun heq : other = name => hname (heq ▸ hother)
    rw [List.eraseDups_cons, hkept, ih hrest]

theorem keys_combine (a : FieldMap α) {b : FieldMap β} (hb : b.keys.Nodup) :
    (combine op a b).keys = a.keys ++ b.keys.filter fun key => key ∉ a.keys := by
  rw [keys_combine_eraseDups, eraseDups_of_nodup (hb.filter _)]

/-- The value under a key is made of all that came under it, one after the other. -/
theorem get?_combine_foldl (a : FieldMap α) (b : FieldMap β) (key : String) :
    (combine op a b).get? key = ((b.filter fun entry => entry.1 = key).map Prod.snd).foldl
      (fun old v => some (op old v)) (a.get? key) := by
  induction b generalizing a with
  | nil => rfl
  | cons entry rest ih =>
    obtain ⟨k, v⟩ := entry
    rw [combine_cons, ih]
    by_cases hkey : k = key
    · subst hkey
      rw [get?_alter_self]
      simp
    · rw [get?_alter_of_ne _ _ (Ne.symm hkey)]
      simp [hkey]

theorem nodup_keys_combine {a : FieldMap α} (ha : a.keys.Nodup) (b : FieldMap β) :
    (combine op a b).keys.Nodup := by
  induction b generalizing a with
  | nil => exact ha
  | cons entry rest ih => exact ih (nodup_keys_alter _ ha)

theorem get?_combine (a : FieldMap α) {b : FieldMap β} (hb : b.keys.Nodup) (key : String) :
    (combine op a b).get? key =
      match b.get? key with
      | some v => some (op (a.get? key) v)
      | none => a.get? key := by
  induction b generalizing a with
  | nil => rfl
  | cons entry rest ih =>
    obtain ⟨k, v⟩ := entry
    obtain ⟨hk, hrest⟩ := nodup_keys_cons.mp hb
    rw [combine_cons, ih _ hrest]
    by_cases hkey : key = k
    · subst hkey
      rw [get?_eq_none_iff.mpr hk, get?_cons_self, get?_alter_self]
    · rw [get?_cons_of_ne hkey, get?_alter_of_ne _ _ hkey]

/-- Combining is associative where putting values together is, and where it does not matter that a
value was put together with nothing before. -/
theorem combine_assoc (op : Option α → α → α)
    (hop : ∀ old v w, op (some (op old v)) w = op old (op (some v) w))
    (hnone : ∀ old w, op old (op none w) = op old w)
    {a b c : FieldMap α} (ha : a.keys.Nodup) (hb : b.keys.Nodup) (hc : c.keys.Nodup) :
    combine op (combine op a b) c = combine op a (combine op b c) := by
  have hab := nodup_keys_combine op ha b
  have hbc := nodup_keys_combine op hb c
  apply ext_of_get? (nodup_keys_combine op hab c)
  · rw [keys_combine op _ hc, keys_combine op a hb, keys_combine op a hbc, keys_combine op b hc,
      List.append_assoc, List.filter_append, List.filter_filter]
    congr 2
    apply List.filter_congr
    intro key _
    by_cases hkey : key ∈ a.keys <;> simp [hkey]
  · intro key
    rw [get?_combine op _ hc, get?_combine op a hb, get?_combine op a hbc, get?_combine op b hc]
    cases b.get? key with
    | none =>
      cases c.get? key with
      | none => rfl
      | some w => exact congrArg some (hnone (a.get? key) w).symm
    | some v =>
      cases c.get? key with
      | none => rfl
      | some w => exact congrArg some (hop (a.get? key) v w)

theorem map_alter (g : α → β) (m : FieldMap α) (key : String) {f : Option α → α}
    {f' : Option β → β} (h : ∀ old, g (f old) = f' (old.map g)) :
    (m.alter key f).map (fun entry => (entry.1, g entry.2)) =
      FieldMap.alter (m.map fun entry => (entry.1, g entry.2)) key f' := by
  induction m with
  | nil => simp [alter, h]
  | cons entry rest ih =>
    obtain ⟨k, v⟩ := entry
    by_cases hk : k = key
    · simp [alter, hk, h]
    · simp only [alter, hk, if_false, List.map_cons, ih]

/-- Changing the values of combined maps is combining maps with changed values. -/
theorem map_combine {γ δ : Type} {op : Option α → β → α} {op' : Option γ → δ → γ} (g : α → γ)
    (g' : β → δ) (h : ∀ old v, g (op old v) = op' (old.map g) (g' v)) (a : FieldMap α)
    (b : FieldMap β) :
    (a.combine op b).map (fun entry => (entry.1, g entry.2)) =
      FieldMap.combine op' (a.map fun entry => (entry.1, g entry.2))
        (b.map fun entry => (entry.1, g' entry.2)) := by
  induction b generalizing a with
  | nil => rfl
  | cons entry rest ih =>
    obtain ⟨k, v⟩ := entry
    have hfirst : ((a.alter k (op · v)).map fun entry => (entry.1, g entry.2)) =
        FieldMap.alter (a.map fun entry => (entry.1, g entry.2)) k (op' · (g' v)) :=
      map_alter g a k fun old => h old v
    rw [combine_cons, ih, hfirst]
    rfl

theorem forall_mem_alter {P : α → Prop} {Q : Prop} {f : Option α → α} (hnone : P (f none) ↔ Q)
    (hsome : ∀ v, P (f (some v)) ↔ P v ∧ Q) (m : FieldMap α) (key : String) :
    (∀ entry ∈ m.alter key f, P entry.2) ↔ (∀ entry ∈ m, P entry.2) ∧ Q := by
  induction m with
  | nil => simp [alter, hnone]
  | cons entry rest ih =>
    obtain ⟨k, v⟩ := entry
    simp only [alter]
    split
    · simp only [List.forall_mem_cons, hsome]
      exact and_right_comm
    · simp only [List.forall_mem_cons, ih]
      exact and_assoc.symm

/-- What holds of a value iff it holds of all that was put together to it, holds of all values of
combined maps iff it holds of those of both. -/
theorem forall_mem_combine {P : α → Prop} {Q : β → Prop} {op : Option α → β → α}
    (hnone : ∀ v, P (op none v) ↔ Q v) (hsome : ∀ old v, P (op (some old) v) ↔ P old ∧ Q v)
    (a : FieldMap α) (b : FieldMap β) :
    (∀ entry ∈ a.combine op b, P entry.2) ↔
      (∀ entry ∈ a, P entry.2) ∧ ∀ entry ∈ b, Q entry.2 := by
  induction b generalizing a with
  | nil => simp [combine]
  | cons entry rest ih =>
    obtain ⟨k, v⟩ := entry
    rw [combine_cons, ih, forall_mem_alter (hnone v) (hsome · v) a k, List.forall_mem_cons,
      and_assoc]

theorem foldl_last {entries : List α} (old : Option α) :
    entries.foldl (fun _ v => some v) old = entries.getLast?.or old := by
  induction entries generalizing old with
  | nil => rfl
  | cons v rest ih =>
    rw [List.foldl_cons, ih, List.getLast?_cons]
    cases rest.getLast? <;> rfl

/-- A map of given entries has every key once, where it came first. -/
theorem keys_ofList (entries : List (String × α)) :
    (ofList entries).keys = (entries.map Prod.fst).eraseDups := by
  refine (keys_combine_eraseDups (fun _ v => v) [] entries).trans ?_
  simp [keys]

/-- Under a key a map of given entries has the last value. -/
theorem get?_ofList (entries : List (String × α)) (key : String) :
    (ofList entries).get? key =
      ((entries.filter fun entry => entry.1 = key).map Prod.snd).getLast? := by
  have hget := get?_combine_foldl (fun _ v => v) [] entries key
  rwa [foldl_last, get?_nil, Option.or_none] at hget

theorem nodup_keys_merge {a : FieldMap α} (ha : a.keys.Nodup) (b : FieldMap α) :
    (a.merge b).keys.Nodup :=
  nodup_keys_combine (fun _ v => v) ha b

theorem nodup_keys_ofList (entries : List (String × α)) : (ofList entries).keys.Nodup := by
  have hnil : (keys ([] : FieldMap α)).Nodup := List.nodup_nil
  exact nodup_keys_merge hnil entries

theorem merge_assoc {a b c : FieldMap α} (ha : a.keys.Nodup) (hb : b.keys.Nodup)
    (hc : c.keys.Nodup) : (a.merge b).merge c = a.merge (b.merge c) := by
  apply combine_assoc (fun _ v => v) _ _ ha hb hc
  · intro old v w
    rfl
  · intro old w
    rfl

end PayloadCheck.FieldMap
