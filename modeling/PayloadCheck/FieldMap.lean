/-!
# Maps that keep their order

Entries under text keys, in the order in which the keys first came. Main statements: after an
insertion the key has the new value and every other key the old one, and the keys keep their
order.
-/

namespace PayloadCheck

/-- Entries under text keys, in order. -/
abbrev FieldMap (α : Type) := List (String × α)

namespace FieldMap

variable {α β : Type}

/-- The value under a key. -/
def get? (m : FieldMap α) (key : String) : Option α := m.lookup key

/-- Whether there is an entry under a key. -/
def has (m : FieldMap α) (key : String) : Bool := (m.get? key).isSome

/-- The keys, in order. -/
def keys (m : FieldMap α) : List String := m.map Prod.fst

/-- Changes the value under a key; a key that is not there is added at the end. -/
def alter (m : FieldMap α) (key : String) (f : Option α → α) : FieldMap α :=
  match m with
  | [] => [(key, f none)]
  | (k, v) :: rest => if k = key then (k, f (some v)) :: rest else (k, v) :: alter rest key f

/-- Puts a value under a key; a key that is there already keeps its place. -/
def insert (m : FieldMap α) (key : String) (value : α) : FieldMap α := m.alter key fun _ => value

/-- A map of the given entries; of two under one key the first gives the place and the last the
value. -/
def ofList (entries : List (String × α)) : FieldMap α :=
  entries.foldl (fun m (k, v) => m.insert k v) []

/-- The entries of both maps; where both have a key, the second one's value counts. -/
def merge (a b : FieldMap α) : FieldMap α := b.foldl (fun m (k, v) => m.insert k v) a

theorem get?_nil (key : String) : get? ([] : FieldMap α) key = none := rfl

theorem get?_cons_self (key : String) (v : α) (rest : FieldMap α) :
    get? ((key, v) :: rest) key = some v := by
  simp [get?]

theorem get?_cons_of_ne {key other : String} (h : other ≠ key) (v : α) (rest : FieldMap α) :
    get? ((key, v) :: rest) other = rest.get? other := by
  have h' : (other == key) = false := by simpa using h
  simp [get?, List.lookup_cons, h']

theorem nodup_keys_cons {k : String} {v : α} {rest : FieldMap α} :
    (keys ((k, v) :: rest)).Nodup ↔ k ∉ rest.keys ∧ rest.keys.Nodup := by
  simp only [keys, List.map_cons, List.nodup_cons]

theorem has_iff_mem_keys {m : FieldMap α} {key : String} : m.has key = true ↔ key ∈ m.keys := by
  unfold has get? keys
  induction m with
  | nil => simp
  | cons entry rest ih =>
    obtain ⟨k, v⟩ := entry
    rw [List.lookup_cons, List.map_cons, List.mem_cons, ← ih]
    cases hk : key == k with
    | true => simp [eq_of_beq hk]
    | false => simp [ne_of_beq_false hk]

theorem get?_eq_none_iff {m : FieldMap α} {key : String} : m.get? key = none ↔ key ∉ m.keys := by
  rw [← has_iff_mem_keys, has]
  cases m.get? key <;> simp

theorem get?_alter_self (m : FieldMap α) (key : String) (f : Option α → α) :
    (m.alter key f).get? key = some (f (m.get? key)) := by
  induction m with
  | nil => exact get?_cons_self key (f none) []
  | cons entry rest ih =>
    obtain ⟨k, v⟩ := entry
    by_cases h : k = key
    · subst h
      simp only [alter, if_true, get?_cons_self]
    · simp only [alter, h, if_false, get?_cons_of_ne (Ne.symm h)]
      exact ih

theorem get?_alter_of_ne (m : FieldMap α) {key other : String} (f : Option α → α)
    (h : other ≠ key) : (m.alter key f).get? other = m.get? other := by
  induction m with
  | nil => exact get?_cons_of_ne h (f none) []
  | cons entry rest ih =>
    obtain ⟨k, v⟩ := entry
    by_cases hk : k = key
    · subst hk
      simp only [alter, if_true, get?_cons_of_ne h]
    · simp only [alter, hk, if_false]
      by_cases ho : other = k
      · subst ho
        rw [get?_cons_self, get?_cons_self]
      · rw [get?_cons_of_ne ho, get?_cons_of_ne ho]
        exact ih

theorem keys_alter_of_mem {m : FieldMap α} {key : String} (f : Option α → α) (h : key ∈ m.keys) :
    (m.alter key f).keys = m.keys := by
  unfold keys at h ⊢
  induction m with
  | nil => cases h
  | cons entry rest ih =>
    obtain ⟨k, v⟩ := entry
    by_cases hk : k = key
    · simp [alter, hk]
    · have hrest : key ∈ rest.map Prod.fst := by simpa [Ne.symm hk] using h
      simp [alter, hk, ih hrest]

theorem alter_of_not_mem {m : FieldMap α} {key : String} (f : Option α → α) (h : key ∉ m.keys) :
    m.alter key f = m ++ [(key, f none)] := by
  unfold keys at h
  induction m with
  | nil => rfl
  | cons entry rest ih =>
    obtain ⟨k, v⟩ := entry
    simp only [List.map_cons, List.mem_cons, not_or] at h
    simp [alter, Ne.symm h.1, ih h.2]

theorem get?_insert_self (m : FieldMap α) (key : String) (value : α) :
    (m.insert key value).get? key = some value :=
  get?_alter_self m key fun _ => value

theorem get?_insert_of_ne (m : FieldMap α) {key other : String} (value : α) (h : other ≠ key) :
    (m.insert key value).get? other = m.get? other :=
  get?_alter_of_ne m (fun _ => value) h

theorem keys_insert_of_has (m : FieldMap α) {key : String} (value : α) (h : m.has key) :
    (m.insert key value).keys = m.keys :=
  keys_alter_of_mem (fun _ => value) (has_iff_mem_keys.mp h)

theorem mem_of_get? {m : FieldMap α} {key : String} {value : α} (h : m.get? key = some value) :
    (key, value) ∈ m := by
  obtain ⟨before, after, rfl, -⟩ := List.lookup_eq_some_iff.mp h
  simp

theorem mem_insert {m : FieldMap α} {key : String} {value : α} {entry : String × α}
    (h : entry ∈ m.insert key value) : entry = (key, value) ∨ entry ∈ m := by
  unfold insert at h
  induction m with
  | nil => exact Or.inl (by simpa [alter] using h)
  | cons first rest ih =>
    obtain ⟨k, v⟩ := first
    by_cases hk : k = key
    · simp only [alter, hk, if_true, List.mem_cons] at h
      exact h.imp_right (List.mem_cons_of_mem _)
    · simp only [alter, hk, if_false, List.mem_cons] at h
      rcases h with rfl | h
      · exact Or.inr (List.mem_cons_self ..)
      · exact (ih h).imp_right (List.mem_cons_of_mem _)

theorem insert_of_not_mem {m : FieldMap α} {key : String} (value : α) (h : key ∉ m.keys) :
    m.insert key value = m ++ [(key, value)] :=
  alter_of_not_mem (fun _ => value) h

theorem get?_map (m : FieldMap α) (f : String → α → β) (key : String) :
    get? (m.map fun entry => (entry.1, f entry.1 entry.2)) key = (m.get? key).map (f key) := by
  unfold get?
  induction m with
  | nil => rfl
  | cons first rest ih =>
    obtain ⟨k, v⟩ := first
    rw [List.map_cons, List.lookup_cons, List.lookup_cons]
    cases hk : key == k with
    | true => simp [eq_of_beq hk]
    | false => exact ih

/-- Entries under new and different keys are added at the end. -/
theorem merge_of_nodup {m entries : FieldMap α} (h : (m ++ entries).keys.Nodup) :
    m.merge entries = m ++ entries := by
  unfold merge
  induction entries generalizing m with
  | nil => simp
  | cons first rest ih =>
    obtain ⟨k, v⟩ := first
    have hk : k ∉ m.keys := by
      intro hmem
      simp only [keys, List.map_append, List.map_cons, List.nodup_append] at h
      exact h.2.2 k hmem k (List.mem_cons_self ..) rfl
    simp only [List.foldl_cons, insert_of_not_mem v hk]
    rw [ih (by simpa using h)]
    simp

/-- Entries under different keys are a map as they stand. -/
theorem ofList_of_nodup {entries : List (String × α)} (h : (entries.map Prod.fst).Nodup) :
    ofList entries = entries :=
  merge_of_nodup (m := []) h

end FieldMap

end PayloadCheck
