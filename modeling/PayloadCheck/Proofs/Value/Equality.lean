import PayloadCheck.Proofs.Number.Order
import PayloadCheck.Value.Equality

/-!
# Equality of values is symmetric and transitive

Equality walks the first value and seeks each of its parts in the second. Of two sets or maps it
asks that they have as many parts and that every part of the first has its equal in the second;
where no part stands twice (`WellFormed`), nothing else is in the second then
(`exists_of_covered`), and equality is symmetric (`same_comm`). It is transitive for all values
(`same_trans`). The sets and maps that the program builds are well-formed (`wellFormed_setOf`,
`wellFormed_mapOf`).
-/

namespace PayloadCheck

namespace Time.Moment

/-- What equality compares of a moment: its clock reading, or the instant where it has an offset. -/
def reading (m : Moment) : Int ⊕ Int :=
  match m.offset with
  | none => .inl m.ticks
  | some _ => .inr m.instant

theorem same_iff (m n : Moment) : m.same n = true ↔ m.reading = n.reading := by
  unfold same reading
  cases m.offset <;> cases n.offset <;> simp

theorem same_trans {m n k : Moment} (hmn : m.same n = true) (hnk : n.same k = true) :
    m.same k = true := by
  rw [same_iff] at *
  exact hmn.trans hnk

theorem same_symm {m n : Moment} (h : m.same n = true) : n.same m = true := by
  rw [same_iff] at *
  exact h.symm

end Time.Moment

namespace Value

/-! ### Lists that cover one another -/

/-- Where every item of a list has a partner in a list of the same length, and no two of them share
one, every item of the other list is such a partner. -/
theorem exists_of_covered {α β : Type} {R : α → β → Prop} {as : List α} {bs : List β}
    (hlength : as.length = bs.length) (hcovered : ∀ a ∈ as, ∃ b ∈ bs, R a b)
    (hapart : as.Pairwise fun a a' => ∀ b ∈ bs, R a b → ¬ R a' b) :
    ∀ b ∈ bs, ∃ a ∈ as, R a b := by
  induction as generalizing bs with
  | nil =>
    obtain rfl := List.length_eq_zero_iff.mp hlength.symm
    intro b hb
    cases hb
  | cons a rest ih =>
    obtain ⟨⟨partner, hpartner, hrelated⟩, hrest⟩ := List.forall_mem_cons.mp hcovered
    obtain ⟨hfirst, hapart⟩ := List.pairwise_cons.mp hapart
    obtain ⟨front, back, rfl⟩ := List.append_of_mem hpartner
    have hsub : ∀ b ∈ front ++ back, b ∈ front ++ partner :: back := by
      intro b hb
      rw [List.mem_append] at hb ⊢
      exact hb.imp_right (List.mem_cons_of_mem _)
    -- the partner of the first item is taken, so the others find theirs beside it
    have hothers : ∀ a' ∈ rest, ∃ b ∈ front ++ back, R a' b := by
      intro a' ha'
      obtain ⟨b, hb, hab⟩ := hrest a' ha'
      refine ⟨b, ?_, hab⟩
      rw [List.mem_append, List.mem_cons] at hb
      rcases hb with hb | rfl | hb
      · exact List.mem_append_left _ hb
      · exact absurd hab (hfirst a' ha' b hpartner hrelated)
      · exact List.mem_append_right _ hb
    have hlength : rest.length = (front ++ back).length := by
      simp only [List.length_cons, List.length_append] at hlength ⊢
      omega
    have hcover := ih hlength hothers (hapart.imp fun h b hb => h b (hsub b hb))
    intro b hb
    rw [List.mem_append, List.mem_cons] at hb
    rcases hb with hb | rfl | hb
    · obtain ⟨a', ha', hab⟩ := hcover b (List.mem_append_left _ hb)
      exact ⟨a', List.mem_cons_of_mem _ ha', hab⟩
    · exact ⟨a, List.mem_cons_self .., hrelated⟩
    · obtain ⟨a', ha', hab⟩ := hcover b (List.mem_append_right _ hb)
      exact ⟨a', List.mem_cons_of_mem _ ha', hab⟩

/-! ### Parts of values -/

/-- The values that a value directly holds. -/
def parts : Value → List Value
  | list items | tuple items | set items => items
  | map entries => entries.map Prod.fst ++ entries.map Prod.snd
  | _ => []

theorem fst_mem_parts {entries : List (Value × Value)} {e : Value × Value} (he : e ∈ entries) :
    e.1 ∈ (map entries).parts :=
  List.mem_append_left _ (List.mem_map_of_mem he)

theorem snd_mem_parts {entries : List (Value × Value)} {e : Value × Value} (he : e ∈ entries) :
    e.2 ∈ (map entries).parts :=
  List.mem_append_right _ (List.mem_map_of_mem he)

theorem sizeOf_lt_of_mem_parts {v w : Value} (h : w ∈ v.parts) : sizeOf w < sizeOf v := by
  cases v with
  | list items | tuple items | set items =>
    have hlt : sizeOf w < sizeOf items := List.sizeOf_lt_of_mem h
    simp only [list.sizeOf_spec, tuple.sizeOf_spec, set.sizeOf_spec]
    omega
  | map entries =>
    rcases List.mem_append.mp h with h | h
    all_goals
      obtain ⟨⟨k, x⟩, he, rfl⟩ := List.mem_map.mp h
      have hlt := List.sizeOf_lt_of_mem he
      simp only [Prod.mk.sizeOf_spec] at hlt
      simp only [map.sizeOf_spec]
      omega
  | _ => cases h

/-- What holds of a value whenever it holds of its parts holds of every value. -/
theorem induction_on_parts {P : Value → Prop} (step : ∀ v, (∀ w ∈ v.parts, P w) → P v) (v : Value) :
    P v :=
  step v fun w _ => induction_on_parts step w
termination_by sizeOf v
decreasing_by exact sizeOf_lt_of_mem_parts ‹_›

/-- No item of a set equals another, and no key of a map. -/
def IsApart : Value → Prop
  | set items => items.Pairwise fun a a' => same a a' = false
  | map entries => (entries.map Prod.fst).Pairwise fun k k' => same k k' = false
  | _ => True

/-- In the value and in its parts, no set holds an item twice and no map a key. -/
inductive WellFormed : Value → Prop
  | intro {v : Value} (parts : ∀ w ∈ v.parts, WellFormed w) (apart : v.IsApart) : WellFormed v

theorem WellFormed.of_mem_parts {v w : Value} (h : v.WellFormed) (hw : w ∈ v.parts) :
    w.WellFormed := by
  obtain ⟨hparts, -⟩ := h
  exact hparts w hw

theorem WellFormed.isApart {v : Value} (h : v.WellFormed) : v.IsApart := by
  obtain ⟨-, hapart⟩ := h
  exact hapart

/-! ### What a value equals -/

section

variable {b : Value}

theorem same_absent_iff : same absent b = true ↔ b = absent := by
  cases b <;> simp [same, amount?]

theorem same_null_iff : same null b = true ↔ b = null := by
  cases b <;> simp [same, amount?]

theorem same_text_iff {s : String} : same (text s) b = true ↔ b = text s := by
  cases b <;> simp [same, amount?, @eq_comm _ s]

theorem same_bytes_iff {bs : List UInt8} : same (bytes bs) b = true ↔ b = bytes bs := by
  cases b <;> simp [same, amount?, @eq_comm _ bs]

theorem same_date_iff {d : Time.Date} : same (date d) b = true ↔ b = date d := by
  cases b <;> simp [same, amount?, @eq_comm _ d]

theorem same_upload_iff {u : Upload} : same (upload u) b = true ↔ b = upload u := by
  cases b <;> simp [same, amount?, @eq_comm _ u]

theorem same_moment_iff {m : Time.Moment} :
    same (moment m) b = true ↔ ∃ n, b = moment n ∧ m.same n = true := by
  cases b <;> simp [same, amount?]

theorem same_spec_iff {s : Rule.Spec} :
    same (spec s) b = true ↔ ∃ t, b = spec t ∧ s.name = t.name := by
  cases b <;> simp [same, amount?, Rule.Spec.same]

theorem same_list_iff {items : List Value} :
    same (list items) b = true ↔ ∃ others, b = list others ∧ sameList items others = true := by
  cases b <;> simp [same, amount?]

theorem same_tuple_iff {items : List Value} :
    same (tuple items) b = true ↔ ∃ others, b = tuple others ∧ sameList items others = true := by
  cases b <;> simp [same, amount?]

theorem same_set_iff {items : List Value} : same (set items) b = true ↔
    ∃ others, b = set others ∧ items.length = others.length ∧ allIn items others = true := by
  cases b <;> simp [same, amount?]

theorem same_map_iff {entries : List (Value × Value)} : same (map entries) b = true ↔
    ∃ others, b = map others ∧ entries.length = others.length ∧
      allEntriesIn entries others = true := by
  cases b <;> simp [same, amount?]

/-- A number of any kind equals the numbers that are the same amount. -/
theorem same_amount_iff {a : Value} {x : Amount} (h : a.amount? = some x) :
    same a b = true ↔ ∃ y, b.amount? = some y ∧ x.same y = true := by
  cases a with
  | bool | int | double | decimal => cases b <;> simp_all [same, amount?]
  | _ => cases h

end

theorem sameList_iff {as bs : List Value} :
    sameList as bs = true ↔ List.Forall₂ (fun a b => same a b = true) as bs := by
  induction as generalizing bs with
  | nil => cases bs <;> simp [sameList]
  | cons a as ih => cases bs <;> simp [sameList, ih]

theorem allIn_iff {as bs : List Value} :
    allIn as bs = true ↔ ∀ a ∈ as, ∃ b ∈ bs, same a b = true := by
  induction as with
  | nil => simp [allIn]
  | cons a as ih => simp [allIn, ih]

/-- Two entries have the same key and the same value. -/
def SameEntry (e f : Value × Value) : Prop :=
  same e.1 f.1 = true ∧ same e.2 f.2 = true

theorem allEntriesIn_iff {es fs : List (Value × Value)} :
    allEntriesIn es fs = true ↔ ∀ e ∈ es, ∃ f ∈ fs, SameEntry e f := by
  induction es with
  | nil => simp [allEntriesIn]
  | cons e es ih =>
    obtain ⟨k, v⟩ := e
    rw [List.forall_mem_cons, ← ih, allEntriesIn, Bool.and_eq_true, List.any_eq_true]
    simp only [Bool.and_eq_true, SameEntry]

/-! ### Transitivity -/

theorem sameList_trans {as bs cs : List Value}
    (htrans : ∀ a ∈ as, ∀ {b c}, same a b = true → same b c = true → same a c = true)
    (hab : sameList as bs = true) (hbc : sameList bs cs = true) : sameList as cs = true := by
  rw [sameList_iff, List.forall₂_iff_get] at *
  obtain ⟨hlength, hab⟩ := hab
  obtain ⟨hlength', hbc⟩ := hbc
  refine ⟨hlength.trans hlength', fun i hi hi' => ?_⟩
  have hi'' : i < bs.length := hlength ▸ hi
  exact htrans _ (List.get_mem ..) (hab i hi hi'') (hbc i hi'' hi')

theorem same_trans {a b c : Value} (hab : same a b = true) (hbc : same b c = true) :
    same a c = true := by
  induction a using induction_on_parts generalizing b c with
  | step a ih =>
  cases a with
  | absent => rwa [same_absent_iff.mp hab] at hbc
  | null => rwa [same_null_iff.mp hab] at hbc
  | text => rwa [same_text_iff.mp hab] at hbc
  | bytes => rwa [same_bytes_iff.mp hab] at hbc
  | date => rwa [same_date_iff.mp hab] at hbc
  | upload => rwa [same_upload_iff.mp hab] at hbc
  | bool | int | double | decimal =>
    obtain ⟨y, hy, hxy⟩ := (same_amount_iff rfl).mp hab
    obtain ⟨z, hz, hyz⟩ := (same_amount_iff hy).mp hbc
    exact (same_amount_iff rfl).mpr ⟨z, hz, Amount.same_trans hxy hyz⟩
  | moment =>
    obtain ⟨n, rfl, hmn⟩ := same_moment_iff.mp hab
    obtain ⟨k, rfl, hnk⟩ := same_moment_iff.mp hbc
    exact same_moment_iff.mpr ⟨k, rfl, Time.Moment.same_trans hmn hnk⟩
  | spec =>
    obtain ⟨t, rfl, hst⟩ := same_spec_iff.mp hab
    obtain ⟨u, rfl, htu⟩ := same_spec_iff.mp hbc
    exact same_spec_iff.mpr ⟨u, rfl, hst.trans htu⟩
  | list items =>
    obtain ⟨bs, rfl, hbs⟩ := same_list_iff.mp hab
    obtain ⟨cs, rfl, hcs⟩ := same_list_iff.mp hbc
    exact same_list_iff.mpr ⟨cs, rfl, sameList_trans ih hbs hcs⟩
  | tuple items =>
    obtain ⟨bs, rfl, hbs⟩ := same_tuple_iff.mp hab
    obtain ⟨cs, rfl, hcs⟩ := same_tuple_iff.mp hbc
    exact same_tuple_iff.mpr ⟨cs, rfl, sameList_trans ih hbs hcs⟩
  | set items =>
    obtain ⟨bs, rfl, hlength, hbs⟩ := same_set_iff.mp hab
    obtain ⟨cs, rfl, hlength', hcs⟩ := same_set_iff.mp hbc
    refine same_set_iff.mpr ⟨cs, rfl, hlength.trans hlength', allIn_iff.mpr ?_⟩
    intro x hx
    obtain ⟨y, hy, hxy⟩ := allIn_iff.mp hbs x hx
    obtain ⟨z, hz, hyz⟩ := allIn_iff.mp hcs y hy
    exact ⟨z, hz, ih x hx hxy hyz⟩
  | map entries =>
    obtain ⟨bs, rfl, hlength, hbs⟩ := same_map_iff.mp hab
    obtain ⟨cs, rfl, hlength', hcs⟩ := same_map_iff.mp hbc
    refine same_map_iff.mpr ⟨cs, rfl, hlength.trans hlength', allEntriesIn_iff.mpr ?_⟩
    intro e he
    obtain ⟨f, hf, hkey, hvalue⟩ := allEntriesIn_iff.mp hbs e he
    obtain ⟨g, hg, hkey', hvalue'⟩ := allEntriesIn_iff.mp hcs f hf
    exact ⟨g, hg, ih _ (fst_mem_parts he) hkey hkey', ih _ (snd_mem_parts he) hvalue hvalue'⟩

/-! ### Symmetry -/

theorem sameList_symm {as bs : List Value}
    (hsymm : ∀ a ∈ as, ∀ b ∈ bs, same a b = true → same b a = true)
    (hab : sameList as bs = true) : sameList bs as = true := by
  rw [sameList_iff, List.forall₂_iff_get] at *
  obtain ⟨hlength, hab⟩ := hab
  refine ⟨hlength.symm, fun i hi hi' => ?_⟩
  exact hsymm _ (List.get_mem ..) _ (List.get_mem ..) (hab i hi' hi)

/-- Equality with well-formed values, once it is known to turn round for the items of a set, turns
round for the whole set: no two items have one partner, for they would be equal. -/
theorem allIn_symm {as bs : List Value} (hlength : as.length = bs.length)
    (hapart : as.Pairwise fun a a' => same a a' = false)
    (hsymm : ∀ a ∈ as, ∀ b ∈ bs, same a b = true → same b a = true) (h : allIn as bs = true) :
    allIn bs as = true := by
  have hcovered := allIn_iff.mp h
  have hunshared : as.Pairwise fun a a' => ∀ b ∈ bs, same a b = true → ¬ same a' b = true := by
    refine hapart.imp_of_mem ?_
    intro a a' _ ha' hdiffer b hb hab ha'b
    have heq : same a a' = true := same_trans hab (hsymm a' ha' b hb ha'b)
    exact Bool.noConfusion (hdiffer.symm.trans heq)
  refine allIn_iff.mpr fun b hb => ?_
  obtain ⟨a, ha, hab⟩ := exists_of_covered hlength hcovered hunshared b hb
  exact ⟨a, ha, hsymm a ha b hb hab⟩

theorem allEntriesIn_symm {es fs : List (Value × Value)} (hlength : es.length = fs.length)
    (hapart : (es.map Prod.fst).Pairwise fun k k' => same k k' = false)
    (hsymm : ∀ e ∈ es, ∀ f ∈ fs, SameEntry e f → SameEntry f e) (h : allEntriesIn es fs = true) :
    allEntriesIn fs es = true := by
  have hcovered := allEntriesIn_iff.mp h
  have hunshared : es.Pairwise fun e e' => ∀ f ∈ fs, SameEntry e f → ¬ SameEntry e' f := by
    refine (List.pairwise_map.mp hapart).imp_of_mem ?_
    intro e e' _ he' hdiffer f hf hef he'f
    have heq : same e.1 e'.1 = true := same_trans hef.1 (hsymm e' he' f hf he'f).1
    exact Bool.noConfusion (hdiffer.symm.trans heq)
  refine allEntriesIn_iff.mpr fun f hf => ?_
  obtain ⟨e, he, hef⟩ := exists_of_covered hlength hcovered hunshared f hf
  exact ⟨e, he, hsymm e he f hf hef⟩

theorem same_symm {a b : Value} (ha : a.WellFormed) (hb : b.WellFormed) (hab : same a b = true) :
    same b a = true := by
  induction a using induction_on_parts generalizing b with
  | step a ih =>
  have hparts : ∀ x ∈ a.parts, ∀ y ∈ b.parts, same x y = true → same y x = true :=
    fun x hx y hy => ih x hx (ha.of_mem_parts hx) (hb.of_mem_parts hy)
  cases a with
  | absent => rw [same_absent_iff.mp hab, same_absent_iff]
  | null => rw [same_null_iff.mp hab, same_null_iff]
  | text => rw [same_text_iff.mp hab, same_text_iff]
  | bytes => rw [same_bytes_iff.mp hab, same_bytes_iff]
  | date => rw [same_date_iff.mp hab, same_date_iff]
  | upload => rw [same_upload_iff.mp hab, same_upload_iff]
  | bool | int | double | decimal =>
    obtain ⟨y, hy, hxy⟩ := (same_amount_iff rfl).mp hab
    exact (same_amount_iff hy).mpr ⟨_, rfl, Amount.same_comm _ y ▸ hxy⟩
  | moment =>
    obtain ⟨n, rfl, hmn⟩ := same_moment_iff.mp hab
    exact same_moment_iff.mpr ⟨_, rfl, Time.Moment.same_symm hmn⟩
  | spec =>
    obtain ⟨t, rfl, hst⟩ := same_spec_iff.mp hab
    exact same_spec_iff.mpr ⟨_, rfl, hst.symm⟩
  | list items =>
    obtain ⟨bs, rfl, hbs⟩ := same_list_iff.mp hab
    exact same_list_iff.mpr ⟨items, rfl, sameList_symm hparts hbs⟩
  | tuple items =>
    obtain ⟨bs, rfl, hbs⟩ := same_tuple_iff.mp hab
    exact same_tuple_iff.mpr ⟨items, rfl, sameList_symm hparts hbs⟩
  | set items =>
    obtain ⟨bs, rfl, hlength, hbs⟩ := same_set_iff.mp hab
    exact same_set_iff.mpr
      ⟨items, rfl, hlength.symm, allIn_symm hlength ha.isApart hparts hbs⟩
  | map entries =>
    obtain ⟨bs, rfl, hlength, hbs⟩ := same_map_iff.mp hab
    refine same_map_iff.mpr ⟨entries, rfl, hlength.symm, ?_⟩
    refine allEntriesIn_symm hlength ha.isApart ?_ hbs
    rintro e he f hf ⟨hkey, hvalue⟩
    exact ⟨hparts _ (fst_mem_parts he) _ (fst_mem_parts hf) hkey,
      hparts _ (snd_mem_parts he) _ (snd_mem_parts hf) hvalue⟩

theorem same_comm {a b : Value} (ha : a.WellFormed) (hb : b.WellFormed) : same a b = same b a :=
  Bool.eq_iff_iff.mpr ⟨same_symm ha hb, same_symm hb ha⟩

/-! ### Sets and maps as they are built -/

theorem WellFormed.insertItem {kept : List Value} {v : Value} (hkept : (set kept).WellFormed)
    (hv : v.WellFormed) : (set (if kept.any (same v) then kept else kept ++ [v])).WellFormed := by
  split
  · exact hkept
  rename_i hnew
  have hitem : ∀ w ∈ kept, w.WellFormed := fun w hw => hkept.of_mem_parts hw
  refine .intro (fun w hw => ?_) (List.pairwise_append.mpr ⟨hkept.isApart, ?_⟩)
  · rcases List.mem_append.mp hw with hw | hw
    · exact hitem w hw
    · exact List.mem_singleton.mp hw ▸ hv
  · refine ⟨List.pairwise_singleton _ _, fun w hw x hx => ?_⟩
    rw [List.mem_singleton.mp hx, same_comm (hitem w hw) hv]
    exact Bool.eq_false_iff.mpr fun h => hnew (List.any_eq_true.mpr ⟨w, hw, h⟩)

theorem wellFormed_setOf {items : List Value} (hitems : ∀ v ∈ items, v.WellFormed) :
    (setOf items).WellFormed :=
  List.foldlRecOn items _ (motive := fun kept => (set kept).WellFormed)
    (.intro (fun _ hw => nomatch hw) .nil) fun _ hkept v hv => hkept.insertItem (hitems v hv)

theorem keys_insertEntry (k v : Value) (entries : List (Value × Value)) :
    (insertEntry k v entries).map Prod.fst = entries.map Prod.fst ∨
      (insertEntry k v entries).map Prod.fst = entries.map Prod.fst ++ [k] ∧
        ∀ key ∈ entries.map Prod.fst, same key k = false := by
  induction entries with
  | nil => exact .inr ⟨rfl, by simp⟩
  | cons e rest ih =>
    obtain ⟨key, x⟩ := e
    unfold insertEntry
    by_cases hkey : same key k = true
    · rw [if_pos hkey]
      exact .inl rfl
    · rw [if_neg hkey]
      refine ih.imp (fun h => by simp [h]) fun ⟨h, hall⟩ => ⟨by simp [h], ?_⟩
      rw [List.map_cons, List.forall_mem_cons]
      exact ⟨Bool.eq_false_iff.mpr hkey, hall⟩

theorem mem_values_insertEntry {k v w : Value} {entries : List (Value × Value)}
    (h : w ∈ (insertEntry k v entries).map Prod.snd) : w = v ∨ w ∈ entries.map Prod.snd := by
  induction entries with
  | nil => simpa [insertEntry] using h
  | cons e rest ih =>
    obtain ⟨key, x⟩ := e
    unfold insertEntry at h
    split at h
    · rw [List.map_cons, List.mem_cons] at h
      exact h.imp_right (List.mem_cons_of_mem _)
    · rw [List.map_cons, List.mem_cons] at h
      rcases h with rfl | h
      · exact .inr (List.mem_cons_self ..)
      · exact (ih h).imp_right (List.mem_cons_of_mem _)

theorem WellFormed.insertEntry {entries : List (Value × Value)} {k v : Value}
    (hentries : (map entries).WellFormed) (hk : k.WellFormed) (hv : v.WellFormed) :
    (map (insertEntry k v entries)).WellFormed := by
  have hapart : (entries.map Prod.fst).Pairwise fun k k' => same k k' = false := hentries.isApart
  have hkeys : ∀ w ∈ entries.map Prod.fst, w.WellFormed := fun w hw =>
    hentries.of_mem_parts (List.mem_append_left _ hw)
  have hvalues : ∀ w ∈ (Value.insertEntry k v entries).map Prod.snd, w.WellFormed := by
    intro w hw
    rcases mem_values_insertEntry hw with rfl | hw
    · exact hv
    · exact hentries.of_mem_parts (List.mem_append_right _ hw)
  rcases keys_insertEntry k v entries with h | ⟨h, hother⟩
  · refine .intro (fun w hw => ?_) (by rw [IsApart, h]; exact hapart)
    rw [parts, h] at hw
    exact (List.mem_append.mp hw).elim (hkeys w) (hvalues w)
  · refine .intro (fun w hw => ?_) ?_
    · rw [parts, h] at hw
      rcases List.mem_append.mp hw with hw | hw
      · rcases List.mem_append.mp hw with hw | hw
        · exact hkeys w hw
        · exact List.mem_singleton.mp hw ▸ hk
      · exact hvalues w hw
    · rw [IsApart, h]
      refine List.pairwise_append.mpr ⟨hapart, List.pairwise_singleton _ _, fun w hw x hx => ?_⟩
      exact List.mem_singleton.mp hx ▸ hother w hw

theorem wellFormed_mapOf {entries : List (Value × Value)}
    (hkeys : ∀ e ∈ entries, e.1.WellFormed) (hvalues : ∀ e ∈ entries, e.2.WellFormed) :
    (mapOf entries).WellFormed :=
  List.foldlRecOn entries _ (motive := fun kept => (map kept).WellFormed)
    (.intro (fun _ hw => nomatch hw) .nil) fun _ hkept e he =>
      hkept.insertEntry (hkeys e he) (hvalues e he)

end Value

end PayloadCheck
