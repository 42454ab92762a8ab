import PayloadCheck.Proofs.Rule.Additions

/-!
# Builders at their places

What stands at the places of a builder at work is a builder as a value, and every step does to the
one what it does to the other (`leaves_step`), as long as each of its parts has a place of its own
(`Tidy`). A rule set is built of copies at new places (`build_on`), and neither a step nor building
a further set touches a place that is not the builder's (`Spares`). So a set that was built stays
what it was (`contents_after`), and what several steps build is known from their values
(`building_merges`).
-/

namespace PayloadCheck.Rule.Workbench

variable {w left : Workbench} {p : Places}

/-- The builder as a value. -/
def shown (w : Workbench) : Builder := w.contents w.own

/-! ### What steps and building do -/

theorem getD_modify {α : Type} {as : List α} {place : Nat} (h : place < as.length) (f : α → α)
    (default : α) : ((as.modify place f)[place]?).getD default = f ((as[place]?).getD default) := by
  rw [List.getElem?_modify_eq, List.getElem?_eq_getElem h]
  rfl

theorem getD_modify_ne {α : Type} (as : List α) {place other : Nat} (h : place ≠ other) (f : α → α)
    (default : α) : ((as.modify place f)[other]?).getD default = (as[other]?).getD default := by
  rw [List.getElem?_modify_ne _ _ h]

theorem modify_concat {α : Type} (as : List α) (a : α) (f : α → α) :
    (as ++ [a]).modify as.length f = as ++ [f a] := by
  induction as with
  | nil => rfl
  | cons first rest ih => simpa using ih

/-- The bench with the first rule of a field, in a list at a new place. -/
def withFirstRule (w : Workbench) (field : String) (rule : Value) : Workbench :=
  { w with
    lists := w.lists ++ [[rule]]
    tables := w.tables.modify w.own.table (·.insert field w.lists.length) }

/-- The bench with one more rule of a field. -/
def withRule (w : Workbench) (field : String) (rule : Value) : Workbench :=
  match (w.tableAt w.own.table).get? field with
  | some place => { w with lists := w.lists.modify place (· ++ [rule]) }
  | none => w.withFirstRule field rule

/-- The bench with a text set in the map at a place. -/
def withText (w : Workbench) (place : Nat) (key text : String) : Workbench :=
  { w with texts := w.texts.modify place (·.insert key text) }

/-- What a step comes to at a bench, and on a builder that is a value. -/
inductive Comes (w : Workbench) (b : Builder) :
    Except Fault Unit × Workbench → Except Fault Builder → Prop
  | fault (fault : Fault) : Comes w b (.error fault, w) (.error fault)
  | nothing : Comes w b (.ok (), w) (.ok b)
  | rule (field : String) (rule : Value) :
    Comes w b (.ok (), w.withRule field rule) (.ok (b.push field rule))
  | message (key text : String) :
    Comes w b (.ok (), w.withText w.own.messages key text) (.ok (b.message key text))
  | shownName (key text : String) :
    Comes w b (.ok (), w.withText w.own.names key text) (.ok (b.shownName key text))

theorem on_bind {α β : Type} (work : Work α) (next : α → Work β) (w : Workbench) :
    (work >>= next).on w = match work.on w with
      | (.ok a, left) => (next a).on left
      | (.error fault, left) => (.error fault, left) := by
  change (match work.on w with
    | (a, left) => (ExceptT.bindCont next a).run left) = _
  obtain ⟨result, left⟩ := work.on w
  cases result <;> rfl

theorem openRules_on (w : Workbench) (field : String) :
    (openRules field).on w = match (w.tableAt w.own.table).get? field with
      | some place => (.ok place, w)
      | none => (.ok w.lists.length, { w with
          lists := w.lists ++ [[]]
          tables := w.tables.modify w.own.table (·.insert field w.lists.length) }) := by
  unfold openRules
  rw [on_bind]
  change Work.on (match (w.tableAt w.own.table).get? field with
    | some place => _
    | none => _) w = _
  cases (w.tableAt w.own.table).get? field <;> rfl

theorem appendRule_on (w : Workbench) (field : String) (rule : Value) :
    (appendRule field rule).on w = (.ok (), w.withRule field rule) := by
  unfold appendRule withRule
  rw [on_bind, openRules_on]
  cases (w.tableAt w.own.table).get? field with
  | some place => rfl
  | none =>
    have hlists : (w.lists ++ [[]]).modify w.lists.length (· ++ [rule]) = w.lists ++ [[rule]] :=
      modify_concat w.lists [] (· ++ [rule])
    unfold withFirstRule
    rw [← hlists]
    rfl

theorem comes_of_rule (w : Workbench) (b : Builder) (field : String) (given : Value)
    (parameters : List Value) :
    Comes w b ((addRule field given parameters).on w) (b.rule field given parameters) := by
  unfold addRule Builder.rule
  split
  · rw [appendRule_on]
    exact .rule field given
  · rw [on_bind]
    cases Builder.specOf given parameters with
    | error fault => exact .fault fault
    | ok spec =>
      change Comes w b ((appendRule field (.spec spec)).on w) _
      rw [appendRule_on]
      exact .rule field (.spec spec)

/-- A step does the same to a builder at its places and to one that is a value. -/
theorem comes_of_step (w : Workbench) (b : Builder) (step : Step) :
    Comes w b (step.perform.on w) (b.apply step) := by
  cases step with
  | rule field given parameters => exact comes_of_rule w b field given parameters
  | required field => exact comes_of_rule w b field (.text "required") []
  | between field least greatest =>
    simp only [Step.perform, Builder.apply, Builder.between]
    cases Builder.isBound least <;> cases Builder.isBound greatest
    · exact .nothing
    all_goals exact comes_of_rule w b field _ _
  | regex field pattern => exact comes_of_rule w b field (.text "regex") [pattern]
  | message key text => exact .message key text
  | shownName field text => exact .shownName field text

/-- A step that ends with a fault leaves everything as it was. -/
theorem eq_of_fault {step : Step} {fault : Fault} (h : step.perform.on w = (.error fault, left)) :
    left = w := by
  have hcomes := comes_of_step w {} step
  generalize ({} : Builder).apply step = result at hcomes
  rw [h] at hcomes
  cases hcomes
  rfl

/-! ### Places -/

/-- Each part of the builder has a place of its own, and so have the rules of each field. -/
structure Tidy (w : Workbench) : Prop where
  table : w.own.table < w.tables.length
  messages : w.own.messages < w.texts.length
  names : w.own.names < w.texts.length
  textsApart : w.own.messages ≠ w.own.names
  placed : ∀ entry ∈ w.tableAt w.own.table, entry.2 < w.lists.length
  rulesApart : ((w.tableAt w.own.table).map Prod.snd).Nodup

theorem Tidy.new (name : String) : ({ name } : Workbench).Tidy :=
  ⟨Nat.zero_lt_one, Nat.zero_lt_two, Nat.one_lt_two, Nat.zero_ne_one,
    fun _ hmem => (nomatch hmem), List.nodup_nil⟩

/-- Parts at places, none of which is the builder's. -/
structure Apart (w : Workbench) (p : Places) : Prop where
  table : p.table < w.tables.length ∧ p.table ≠ w.own.table
  messages : p.messages < w.texts.length ∧ p.messages ≠ w.own.messages ∧ p.messages ≠ w.own.names
  names : p.names < w.texts.length ∧ p.names ≠ w.own.messages ∧ p.names ≠ w.own.names
  rules : ∀ entry ∈ w.tableAt p.table, entry.2 < w.lists.length ∧
    ∀ own ∈ w.tableAt w.own.table, own.2 ≠ entry.2

/-- No place that is not the builder's is touched, and the builder takes no such place. -/
structure Spares (w left : Workbench) : Prop where
  name : left.name = w.name
  own : left.own = w.own
  tables : ∀ place < w.tables.length, place ≠ w.own.table →
    left.tables[place]? = w.tables[place]?
  texts : ∀ place < w.texts.length, place ≠ w.own.messages → place ≠ w.own.names →
    left.texts[place]? = w.texts[place]?
  lists : ∀ place < w.lists.length, (∀ own ∈ w.tableAt w.own.table, own.2 ≠ place) →
    left.lists[place]? = w.lists[place]?
  taken : ∀ entry ∈ left.tableAt w.own.table,
    (∃ own ∈ w.tableAt w.own.table, own.2 = entry.2) ∨ w.lists.length ≤ entry.2

theorem Spares.refl (w : Workbench) : w.Spares w :=
  ⟨rfl, rfl, fun _ _ _ => rfl, fun _ _ _ _ => rfl, fun _ _ _ => rfl,
    fun entry hmem => .inl ⟨entry, hmem, rfl⟩⟩

theorem lt_length_of_getElem?_eq {α : Type} {as bs : List α} {place : Nat}
    (h : bs[place]? = as[place]?) (hplace : place < as.length) : place < bs.length := by
  rw [List.getElem?_eq_getElem hplace] at h
  exact (List.getElem?_eq_some_iff.mp h).1

/-- Parts that are not the builder's stay as they are and stay apart. -/
theorem Apart.of_spares (h : w.Apart p) (hspares : w.Spares left) :
    left.Apart p ∧ left.contents p = w.contents p := by
  have htable := hspares.tables _ h.table.1 h.table.2
  have hmessages := hspares.texts _ h.messages.1 h.messages.2.1 h.messages.2.2
  have hnames := hspares.texts _ h.names.1 h.names.2.1 h.names.2.2
  have hsame : left.tableAt p.table = w.tableAt p.table := by
    simp only [tableAt, htable]
  have hlists : ∀ entry ∈ w.tableAt p.table, left.lists[entry.2]? = w.lists[entry.2]? :=
    fun entry hmem => hspares.lists _ (h.rules entry hmem).1 (h.rules entry hmem).2
  constructor
  · refine ⟨?_, ?_, ?_, ?_⟩
    · rw [hspares.own]
      exact ⟨lt_length_of_getElem?_eq htable h.table.1, h.table.2⟩
    · rw [hspares.own]
      exact ⟨lt_length_of_getElem?_eq hmessages h.messages.1, h.messages.2⟩
    · rw [hspares.own]
      exact ⟨lt_length_of_getElem?_eq hnames h.names.1, h.names.2⟩
    · intro entry hmem
      rw [hsame] at hmem
      obtain ⟨hplaced, hapart⟩ := h.rules entry hmem
      refine ⟨lt_length_of_getElem?_eq (hlists entry hmem) hplaced, fun own hown => ?_⟩
      rw [hspares.own] at hown
      -- the builder had the place before, or took a new one
      rcases hspares.taken own hown with ⟨old, hold, heq⟩ | hnew
      · exact heq ▸ hapart old hold
      · omega
  · have hrules : (w.tableAt p.table).map (fun entry => (entry.1, left.rulesAt entry.2)) =
        (w.tableAt p.table).map fun entry => (entry.1, w.rulesAt entry.2) :=
      List.map_congr_left fun entry hmem => by simp only [rulesAt, hlists entry hmem]
    simp only [contents, hsame, hspares.name, textsAt, hmessages, hnames]
    rw [hrules]

/-! ### One more rule -/

/-- Of the lists of a table one changes if it is changed at its place, for no other one is there. -/
theorem map_modify {lists : List (List Value)} {table : FieldMap Nat} {field : String} {place : Nat}
    (hfield : table.get? field = some place) (hplace : place < lists.length)
    (hapart : (table.map Prod.snd).Nodup) (rule : Value) :
    (table.map fun entry => (entry.1, ((lists.modify place (· ++ [rule]))[entry.2]?).getD [])) =
      FieldMap.alter (table.map fun entry => (entry.1, (lists[entry.2]?).getD [])) field
        fun rules => rules.getD [] ++ [rule] := by
  induction table with
  | nil => cases hfield
  | cons entry rest ih =>
    obtain ⟨k, own⟩ := entry
    obtain ⟨hown, hrest⟩ := List.nodup_cons.mp hapart
    have hothers : ∀ entry ∈ rest, own ≠ entry.2 := by
      rintro entry hmem rfl
      have hplace : entry.2 ∈ rest.map Prod.snd := List.mem_map_of_mem hmem
      exact hown hplace
    by_cases hk : k = field
    · rw [hk, FieldMap.get?_cons_self] at hfield
      obtain rfl := Option.some.inj hfield
      simp only [List.map_cons, FieldMap.alter, hk, if_true, getD_modify hplace, Option.getD_some]
      congr 1
      refine List.map_congr_left fun entry hmem => ?_
      rw [getD_modify_ne _ (hothers entry hmem)]
    · rw [FieldMap.get?_cons_of_ne (Ne.symm hk)] at hfield
      have hne : place ≠ own := (hothers _ (FieldMap.mem_of_get? hfield)).symm
      simp only [List.map_cons, FieldMap.alter, hk, if_false, ih hfield hrest,
        getD_modify_ne _ hne]

section
variable (h : w.Tidy) {field : String} (rule : Value)
include h

theorem tableAt_withFirstRule (hfield : (w.tableAt w.own.table).get? field = none) :
    (w.withFirstRule field rule).tableAt w.own.table =
      w.tableAt w.own.table ++ [(field, w.lists.length)] := by
  rw [← FieldMap.insert_of_not_mem _ (FieldMap.get?_eq_none_iff.mp hfield)]
  exact getD_modify h.table (·.insert field w.lists.length) []

theorem Tidy.withFirstRule (hfield : (w.tableAt w.own.table).get? field = none) :
    (w.withFirstRule field rule).Tidy where
  table := by
    rw [Workbench.withFirstRule, List.length_modify]
    exact h.table
  messages := h.messages
  names := h.names
  textsApart := h.textsApart
  placed entry hmem := by
    have hmem : entry ∈ (w.withFirstRule field rule).tableAt w.own.table := hmem
    rw [tableAt_withFirstRule h rule hfield, List.mem_append, List.mem_singleton] at hmem
    rw [Workbench.withFirstRule, List.length_append, List.length_singleton]
    rcases hmem with hold | rfl
    · exact Nat.lt_succ_of_lt (h.placed entry hold)
    · exact Nat.lt_succ_self _
  rulesApart := by
    have htable := tableAt_withFirstRule h rule hfield
    change (((w.withFirstRule field rule).tableAt w.own.table).map Prod.snd).Nodup
    rw [htable, List.map_append, List.nodup_append]
    refine ⟨h.rulesApart, List.nodup_singleton _, fun place hplace other hother => ?_⟩
    obtain ⟨entry, hmem, rfl⟩ := List.mem_map.mp hplace
    rw [List.mem_singleton.mp hother]
    exact Nat.ne_of_lt (h.placed entry hmem)

theorem Tidy.withRule : (w.withRule field rule).Tidy := by
  unfold Workbench.withRule
  cases hfield : (w.tableAt w.own.table).get? field with
  | some place =>
    refine ⟨h.table, h.messages, h.names, h.textsApart, fun entry hmem => ?_, h.rulesApart⟩
    rw [List.length_modify]
    exact h.placed entry hmem
  | none => exact h.withFirstRule rule hfield

theorem shown_withFirstRule (hfield : (w.tableAt w.own.table).get? field = none) :
    (w.withFirstRule field rule).shown = w.shown.push field rule := by
  have hnew : field ∉ w.shown.rules.keys := by
    have hkeys : w.shown.rules.keys = (w.tableAt w.own.table).keys := by
      simp [shown, contents, FieldMap.keys]
    rw [hkeys]
    exact FieldMap.get?_eq_none_iff.mp hfield
  have hold : ∀ entry ∈ w.tableAt w.own.table,
      (w.withFirstRule field rule).rulesAt entry.2 = w.rulesAt entry.2 := fun entry hmem =>
    congrArg (·.getD []) (List.getElem?_append_left (h.placed entry hmem))
  have hfirst : (w.withFirstRule field rule).rulesAt w.lists.length = [rule] := by
    simp [rulesAt, Workbench.withFirstRule]
  rw [shown, contents, Builder.push, FieldMap.alter_of_not_mem _ hnew, Builder.mk.injEq]
  refine ⟨rfl, ?_, rfl, rfl⟩
  change ((w.withFirstRule field rule).tableAt w.own.table).map _ = _
  rw [tableAt_withFirstRule h rule hfield, List.map_append, List.map_singleton]
  refine congr (congrArg _ (List.map_congr_left fun entry hmem => ?_)) ?_
  · rw [hold entry hmem]
  · rw [hfirst]
    rfl

theorem shown_withRule : (w.withRule field rule).shown = w.shown.push field rule := by
  unfold withRule
  cases hfield : (w.tableAt w.own.table).get? field with
  | some place =>
    have hplace := h.placed _ (FieldMap.mem_of_get? hfield)
    rw [shown, contents, Builder.push, Builder.mk.injEq]
    exact ⟨rfl, map_modify hfield hplace h.rulesApart rule, rfl, rfl⟩
  | none => exact shown_withFirstRule h rule hfield

theorem spares_withRule : w.Spares (w.withRule field rule) := by
  unfold withRule
  cases hfield : (w.tableAt w.own.table).get? field with
  | some place =>
    have hmem := FieldMap.mem_of_get? hfield
    refine ⟨rfl, rfl, fun _ _ _ => rfl, fun _ _ _ _ => rfl, fun other _ hother => ?_,
      fun entry hentry => .inl ⟨entry, hentry, rfl⟩⟩
    exact List.getElem?_modify_ne _ _ (hother _ hmem)
  | none =>
    refine ⟨rfl, rfl, fun other _ hother => ?_, fun _ _ _ _ => rfl, fun other hlt _ => ?_,
      fun entry hentry => ?_⟩
    · exact List.getElem?_modify_ne _ _ hother.symm
    · exact List.getElem?_append_left hlt
    · rw [tableAt_withFirstRule h rule hfield, List.mem_append, List.mem_singleton] at hentry
      rcases hentry with hold | rfl
      · exact .inl ⟨entry, hold, rfl⟩
      · exact .inr (Nat.le_refl _)

end

/-! ### One more text -/

theorem Tidy.withText (h : w.Tidy) (place : Nat) (key text : String) :
    (w.withText place key text).Tidy where
  table := h.table
  messages := by
    rw [Workbench.withText, List.length_modify]
    exact h.messages
  names := by
    rw [Workbench.withText, List.length_modify]
    exact h.names
  textsApart := h.textsApart
  placed := h.placed
  rulesApart := h.rulesApart

theorem shown_withMessage (h : w.Tidy) (key text : String) :
    (w.withText w.own.messages key text).shown = w.shown.message key text := by
  rw [shown, contents, Builder.message, Builder.mk.injEq]
  exact ⟨rfl, rfl, getD_modify h.messages _ _, getD_modify_ne _ h.textsApart _ _⟩

theorem shown_withName (h : w.Tidy) (key text : String) :
    (w.withText w.own.names key text).shown = w.shown.shownName key text := by
  rw [shown, contents, Builder.shownName, Builder.mk.injEq]
  exact ⟨rfl, rfl, getD_modify_ne _ h.textsApart.symm _ _, getD_modify h.names _ _⟩

theorem spares_withText {place : Nat} (hplace : place = w.own.messages ∨ place = w.own.names)
    (key text : String) : w.Spares (w.withText place key text) := by
  refine ⟨rfl, rfl, fun _ _ _ => rfl, fun other _ hmessages hnames => ?_, fun _ _ _ => rfl,
    fun entry hmem => .inl ⟨entry, hmem, rfl⟩⟩
  refine List.getElem?_modify_ne _ _ fun heq => ?_
  rcases hplace with rfl | rfl
  · exact hmessages heq.symm
  · exact hnames heq.symm

/-! ### One step -/

/-- What is left behind: a tidy bench that shows a certain builder, and all other places as they
were. -/
structure Leaves (w left : Workbench) (b : Builder) : Prop where
  tidy : left.Tidy
  spares : w.Spares left
  shown : left.shown = b

theorem leaves_step (h : w.Tidy) (step : Step) :
    w.Leaves (step.perform.on w).2 ((w.shown.apply step).toOption.getD w.shown) := by
  have hcomes := comes_of_step w w.shown step
  generalize step.perform.on w = outcome at hcomes ⊢
  generalize w.shown.apply step = result at hcomes ⊢
  cases hcomes with
  | fault fault => exact ⟨h, .refl w, rfl⟩
  | nothing => exact ⟨h, .refl w, rfl⟩
  | rule field rule => exact ⟨h.withRule rule, spares_withRule h rule, shown_withRule h rule⟩
  | message key text =>
    exact ⟨h.withText _ key text, spares_withText (.inl rfl) key text, shown_withMessage h key text⟩
  | shownName key text =>
    exact ⟨h.withText _ key text, spares_withText (.inr rfl) key text, shown_withName h key text⟩

/-! ### Building -/

/-- The bench with more lists at new places. -/
def withLists (w : Workbench) (more : List (List Value)) : Workbench :=
  { w with lists := w.lists ++ more }

theorem withLists_withLists (w : Workbench) (first more : List (List Value)) :
    (w.withLists first).withLists more = w.withLists (first ++ more) := by
  simp [withLists]

theorem rulesAt_withLists {place : Nat} (h : place < w.lists.length) (more : List (List Value)) :
    (w.withLists more).rulesAt place = w.rulesAt place := by
  rw [rulesAt, withLists, List.getElem?_append_left h]
  rfl

theorem length_withLists (w : Workbench) (more : List (List Value)) :
    (w.withLists more).lists.length = w.lists.length + more.length := List.length_append

/-- The lists of a table are copied to new places. -/
theorem copyLists_on {table : FieldMap Nat} (h : ∀ entry ∈ table, entry.2 < w.lists.length) :
    ∃ copy more, (copyLists table).on w = (.ok copy, w.withLists more) ∧
      (copy.map fun entry => (entry.1, (w.withLists more).rulesAt entry.2)) =
        (table.map fun entry => (entry.1, w.rulesAt entry.2)) ∧
      ∀ entry ∈ copy, w.lists.length ≤ entry.2 ∧ entry.2 < (w.withLists more).lists.length := by
  induction table generalizing w with
  | nil => exact ⟨[], [], by simp [withLists]; rfl, rfl, fun _ hmem => nomatch hmem⟩
  | cons entry rest ih =>
    obtain ⟨field, place⟩ := entry
    obtain ⟨hplace, hrest⟩ := List.forall_mem_cons.mp h
    have hlonger : ∀ entry ∈ rest, entry.2 < (w.withLists [w.rulesAt place]).lists.length :=
      fun entry hmem => by
        rw [length_withLists]
        exact Nat.lt_add_right _ (hrest entry hmem)
    obtain ⟨copy, more, hcopies, hsame, hnew⟩ := ih hlonger
    rw [withLists_withLists, List.singleton_append] at hcopies hsame hnew
    rw [length_withLists] at hnew
    refine ⟨(field, w.lists.length) :: copy, w.rulesAt place :: more, ?_, ?_, ?_⟩
    · rw [copyLists, on_bind]
      change ((copyLists rest >>= fun copy => pure ((field, w.lists.length) :: copy)).on
        (w.withLists [w.rulesAt place])) = _
      rw [on_bind, hcopies]
      rfl
    · have hfirst : (w.withLists (w.rulesAt place :: more)).rulesAt w.lists.length =
          w.rulesAt place := by
        simp [rulesAt, withLists]
      rw [List.map_cons, List.map_cons, hfirst, hsame]
      congr 1
      exact List.map_congr_left fun entry hmem => by rw [rulesAt_withLists (hrest entry hmem)]
    · refine List.forall_mem_cons.mpr ⟨⟨Nat.le_refl _, ?_⟩, fun entry hmem => ?_⟩
      · rw [length_withLists, List.length_cons]
        exact Nat.lt_add_of_pos_right (Nat.succ_pos _)
      · obtain ⟨hle, hlt⟩ := hnew entry hmem
        exact ⟨Nat.le_trans (Nat.le_add_right ..) hle, hlt⟩

/-- The bench with copies of the builder's parts: of its lists, which the table tells, and of its
texts. -/
def withCopies (w : Workbench) (more : List (List Value)) (table : FieldMap Nat) : Workbench :=
  { w.withLists more with
    tables := w.tables ++ [table]
    texts := w.texts ++ [w.textsAt w.own.messages, w.textsAt w.own.names] }

/-- The places of the next copies. -/
def next (w : Workbench) : Places := ⟨w.tables.length, w.texts.length, w.texts.length + 1⟩

theorem build_on_eq (h : w.Tidy) {more : List (List Value)} {table : FieldMap Nat}
    (hcopies : (copyLists (w.tableAt w.own.table)).on w = (.ok table, w.withLists more)) :
    build.on w = ((fun _ => w.next) <$> (w.withCopies more table).look w.next,
      w.withCopies more table) := by
  -- the names are copied when the copy of the messages is there already
  let texts := w.texts ++ [w.textsAt w.own.messages]
  let filled : Workbench :=
    { w.withLists more with
      tables := w.tables ++ [table]
      texts := texts ++ [(texts[w.own.names]?).getD []] }
  let p : Places := ⟨w.tables.length, w.texts.length, texts.length⟩
  have hfilled : filled = w.withCopies more table := by
    have hnames : (texts[w.own.names]?).getD [] = w.textsAt w.own.names :=
      congrArg (·.getD []) (List.getElem?_append_left h.names)
    simp only [filled, hnames]
    simp only [withCopies, texts, List.append_assoc, List.singleton_append]
  have hnext : p = w.next := by simp [p, next, texts]
  unfold build
  rw [on_bind]
  change ((copyLists (w.tableAt w.own.table)) >>= _ : Work Places).on w = _
  rw [on_bind, hcopies]
  change ((ofExcept (filled.look p) >>= fun _ => pure p : Work Places)).on filled = _
  rw [hfilled, hnext]
  cases (w.withCopies more table).look w.next <;> rfl

section
variable (more : List (List Value)) (table : FieldMap Nat)

theorem tableAt_next : (w.withCopies more table).tableAt w.next.table = table := by
  simp [tableAt, withCopies, next]

/-- What stands at the new places is what the builder shows. -/
theorem contents_next
    (hsame : (table.map fun entry => (entry.1, (w.withLists more).rulesAt entry.2)) =
      (w.tableAt w.own.table).map fun entry => (entry.1, w.rulesAt entry.2)) :
    (w.withCopies more table).contents w.next = w.shown := by
  rw [contents, tableAt_next, shown, contents, Builder.mk.injEq]
  refine ⟨rfl, hsame, ?_, ?_⟩
  · simp [textsAt, withCopies, next]
  · simp [textsAt, withCopies, next]

theorem tableAt_withCopies (h : w.Tidy) :
    (w.withCopies more table).tableAt w.own.table = w.tableAt w.own.table :=
  congrArg (·.getD []) (List.getElem?_append_left h.table)

theorem textsAt_withCopies {place : Nat} (h : place < w.texts.length) :
    (w.withCopies more table).textsAt place = w.textsAt place :=
  congrArg (·.getD []) (List.getElem?_append_left h)

theorem Tidy.withCopies (h : w.Tidy) : (w.withCopies more table).Tidy where
  table := by
    rw [Workbench.withCopies, List.length_append]
    exact Nat.lt_add_right _ h.table
  messages := by
    rw [Workbench.withCopies, List.length_append]
    exact Nat.lt_add_right _ h.messages
  names := by
    rw [Workbench.withCopies, List.length_append]
    exact Nat.lt_add_right _ h.names
  textsApart := h.textsApart
  placed entry hmem := by
    have hmem : entry ∈ (w.withCopies more table).tableAt w.own.table := hmem
    rw [tableAt_withCopies more table h] at hmem
    rw [Workbench.withCopies, length_withLists]
    exact Nat.lt_add_right _ (h.placed entry hmem)
  rulesApart := by
    change (((w.withCopies more table).tableAt w.own.table).map Prod.snd).Nodup
    rw [tableAt_withCopies more table h]
    exact h.rulesApart

theorem spares_withCopies (h : w.Tidy) : w.Spares (w.withCopies more table) where
  name := rfl
  own := rfl
  tables _ hlt _ := List.getElem?_append_left hlt
  texts _ hlt _ _ := List.getElem?_append_left hlt
  lists _ hlt _ := List.getElem?_append_left hlt
  taken entry hmem := by
    rw [tableAt_withCopies more table h] at hmem
    exact .inl ⟨entry, hmem, rfl⟩

theorem shown_withCopies (h : w.Tidy) : (w.withCopies more table).shown = w.shown := by
  have hrules : ∀ entry ∈ w.tableAt w.own.table,
      (w.withCopies more table).rulesAt entry.2 = w.rulesAt entry.2 := fun entry hmem =>
    rulesAt_withLists (h.placed entry hmem) more
  rw [shown, contents, shown, contents, Builder.mk.injEq]
  refine ⟨rfl, ?_, textsAt_withCopies more table h.messages,
    textsAt_withCopies more table h.names⟩
  change ((w.withCopies more table).tableAt w.own.table).map _ = _
  rw [tableAt_withCopies more table h]
  exact List.map_congr_left fun entry hmem => by rw [hrules entry hmem]

/-- The new places are not the builder's. -/
theorem apart_next (h : w.Tidy) (hnew : ∀ entry ∈ table, w.lists.length ≤ entry.2 ∧
      entry.2 < (w.withLists more).lists.length) : (w.withCopies more table).Apart w.next where
  table := by
    rw [Workbench.withCopies, next, List.length_append]
    exact ⟨Nat.lt_succ_self _, (Nat.ne_of_lt h.table).symm⟩
  messages := by
    have hmessages := h.messages
    have hnames := h.names
    simp only [Workbench.withCopies, withLists, next, List.length_append, List.length_cons,
      List.length_nil]
    omega
  names := by
    have hmessages := h.messages
    have hnames := h.names
    simp only [Workbench.withCopies, withLists, next, List.length_append, List.length_cons,
      List.length_nil]
    omega
  rules entry hmem := by
    rw [tableAt_next] at hmem
    obtain ⟨hle, hlt⟩ := hnew entry hmem
    refine ⟨hlt, fun own hown => ?_⟩
    have hown : own ∈ (w.withCopies more table).tableAt w.own.table := hown
    rw [tableAt_withCopies more table h] at hown
    exact Nat.ne_of_lt (Nat.lt_of_lt_of_le (h.placed own hown) hle)

end

/-- A rule set is built at places of its own, of what the builder shows, which stays as it is. -/
theorem build_on (h : w.Tidy) :
    ∃ p left, build.on w = ((fun _ => p) <$> w.shown.build, left) ∧ w.Leaves left w.shown ∧
      left.Apart p ∧ left.contents p = w.shown := by
  obtain ⟨table, more, hcopies, hsame, hnew⟩ := copyLists_on h.placed
  have hcontents := contents_next more table hsame
  have hleaves : w.Leaves (w.withCopies more table) w.shown :=
    ⟨h.withCopies more table, spares_withCopies more table h, shown_withCopies more table h⟩
  refine ⟨w.next, w.withCopies more table, ?_, hleaves, apart_next more table h hnew, hcontents⟩
  rw [build_on_eq h hcopies, look, hcontents]

theorem builds_iff (h : w.Tidy) {s : RuleSet} : w.Builds s ↔ w.shown.build = .ok s := by
  obtain ⟨p, left, hbuild, -, -, hcontents⟩ := build_on h
  rw [Builds, hbuild]
  cases hset : w.shown.build with
  | error fault =>
    constructor
    · rintro ⟨place, hok, -⟩
      cases hok
    · exact fun hok => nomatch hok
  | ok built =>
    have hlook : left.look p = .ok built := by rw [look, hcontents, hset]
    constructor
    · rintro ⟨place, hok, hplace⟩
      obtain rfl := Except.ok.inj hok
      exact hlook.symm.trans hplace
    · exact fun hok => ⟨p, rfl, hlook.trans hok⟩

/-! ### Several actions -/

/-- The steps among several actions. -/
def stepsOf (actions : List Action) : List Step :=
  actions.filterMap fun
    | .step s => some s
    | .build => none

theorem stepsOf_map (steps : List Step) : stepsOf (steps.map .step) = steps := by
  induction steps with
  | nil => rfl
  | cons step rest ih => exact congrArg (step :: ·) ih

theorem leaves_action (h : w.Tidy) (action : Action) :
    w.Leaves (w.afterAction action) (w.shown.after (stepsOf [action])) := by
  cases action with
  | step s => exact leaves_step h s
  | build =>
    obtain ⟨p, left, hbuild, hleaves, -⟩ := build_on h
    rw [afterAction, hbuild]
    exact hleaves

theorem after_cons (w : Workbench) (action : Action) (rest : List Action) :
    w.after (action :: rest) = (w.afterAction action).after rest := rfl

/-- After any actions the builder is what their steps make of it. -/
theorem tidy_after (h : w.Tidy) (actions : List Action) :
    (w.after actions).Tidy ∧ (w.after actions).shown = w.shown.after (stepsOf actions) := by
  induction actions generalizing w with
  | nil => exact ⟨h, rfl⟩
  | cons action rest ih =>
    have hfirst := leaves_action h action
    obtain ⟨htidy, hshown⟩ := ih hfirst.tidy
    refine ⟨htidy, ?_⟩
    rw [after_cons, hshown, hfirst.shown, ← Builder.after_append]
    exact congrArg w.shown.after List.filterMap_append.symm

/-- What is apart from the builder stays as it is, whatever is done. -/
theorem contents_after (h : w.Tidy) (hp : w.Apart p) (actions : List Action) :
    (w.after actions).contents p = w.contents p := by
  induction actions generalizing w with
  | nil => rfl
  | cons action rest ih =>
    have hfirst := leaves_action h action
    obtain ⟨hapart, hsame⟩ := hp.of_spares hfirst.spares
    rw [after_cons, ih hfirst.tidy hapart, hsame]

theorem builds_after_iff (name : String) (actions : List Action) {s : RuleSet} :
    (({ name } : Workbench).after actions).Builds s ↔
      (({ name } : Builder).after (stepsOf actions)).build = .ok s := by
  obtain ⟨htidy, hshown⟩ := tidy_after (.new name) actions
  rw [builds_iff htidy, hshown]
  rfl

theorem builds_afterSteps_iff {name : String} {steps : List Step} {s : RuleSet} :
    (({ name } : Workbench).afterSteps steps).Builds s ↔
      (({ name } : Builder).after steps).build = .ok s := by
  rw [afterSteps, builds_after_iff, stepsOf_map]

/-- **Building step by step.** A builder with a name builds a rule set after any steps of which each
    adds what fits, and after no others. What is built after some steps and then others has the
    rules, the messages and the shown names, in their order, of the two sets merged that are built
    after either alone. A step that ends with a fault leaves everything as it was. And a set that is
    built between other actions is the one that the steps before it build by themselves, and stays
    that whatever is done later. -/
theorem building_merges (name : String) :
    let start : Workbench := { name }
    (∀ steps, (∃ set, (start.afterSteps steps).Builds set) ↔
      name ≠ "" ∧ ∀ step ∈ steps, step.Fits) ∧
    (∀ s t whole, (start.afterSteps (s ++ t)).Builds whole →
      ∃ first second, (start.afterSteps s).Builds first ∧ (start.afterSteps t).Builds second ∧
        whole.rules = (first.merge second).rules ∧
        whole.messages = (first.merge second).messages ∧
        whole.names = (first.merge second).names) ∧
    (∀ (w left : Workbench) (step : Step) fault,
      step.perform.on w = (.error fault, left) → left = w) ∧
    ∀ before p built, build.on (start.after before) = (.ok p, built) →
      ∃ set, (start.afterSteps (stepsOf before)).Builds set ∧
        ∀ later, (built.after later).look p = .ok set := by
  intro start
  refine ⟨fun steps => ?_, fun s t whole hwhole => ?_, fun w left step fault => eq_of_fault,
    fun before p built hbuilt => ?_⟩
  · simp only [start, builds_afterSteps_iff]
    exact Builder.exists_build_after_iff name steps
  · simp only [start, builds_afterSteps_iff] at hwhole ⊢
    obtain ⟨hname, hfits⟩ := (Builder.exists_build_after_iff name (s ++ t)).mp ⟨whole, hwhole⟩
    obtain ⟨hfirst, hsecond⟩ := List.forall_mem_append.mp hfits
    obtain ⟨first, hfirst⟩ := (Builder.exists_build_after_iff name s).mpr ⟨hname, hfirst⟩
    obtain ⟨second, hsecond⟩ := (Builder.exists_build_after_iff name t).mpr ⟨hname, hsecond⟩
    rw [Builder.after_append_eq_join] at hwhole
    exact ⟨first, second, hfirst, hsecond, Builder.parts_of_join hwhole hfirst hsecond⟩
  · obtain ⟨htidy, hshown⟩ := tidy_after (.new name) before
    obtain ⟨place, left, hbuild, hleaves, hapart, hcontents⟩ := build_on htidy
    rw [hbuild] at hbuilt
    obtain ⟨hresult, rfl⟩ := Prod.mk.inj hbuilt
    cases hset : (start.after before).shown.build with
    | error fault =>
      rw [hset] at hresult
      cases hresult
    | ok set =>
      rw [hset] at hresult
      obtain rfl := Except.ok.inj hresult
      refine ⟨set, ?_, fun later => ?_⟩
      · rw [builds_afterSteps_iff, ← hset, hshown]
        rfl
      · rw [look, contents_after hleaves.tidy hapart later, hcontents, hset]

/-- A rule without a name is refused between steps that go on; a set that is built before other
steps is not touched by them, and both parts of the steps come together in their order. -/
theorem building_merges_signup :
    let start : Workbench := { name := "signup" }
    let nameless : Step := .rule "age" (.text "") [.text "x"]
    let s := [.required "email", nameless, .message "required" "give one"]
    let t := [.between "age" (.text "18") .null, .required "email", .message "required" "missing"]
    let w := start.afterSteps s
    (∃ fault, nameless.perform.on w = (.error fault, w)) ∧
      (∃ p built set, build.on w = (.ok p, built) ∧ w.Builds set ∧
        (built.after (t.map .step)).look p = .ok set) ∧
      ∃ whole, (start.afterSteps (s ++ t)).Builds whole ∧
        whole.rules = [("email", .listed [.token "required", .token "required"]),
          ("age", .listed [.spec ⟨"Min", ["18"]⟩])] ∧
        whole.messages = [("required", "missing")] := by
  intro start nameless s t w
  obtain ⟨hexists, hmerges, hkeeps, hstays⟩ := building_merges "signup"
  have hfits : ∀ step ∈ s ++ t, step.Fits := by simp [s, t, nameless, Step.Fits]
  refine ⟨?_, ?_, ?_⟩
  · obtain ⟨fault, hfault⟩ : ∃ fault, (nameless.perform.on w).1 = .error fault := ⟨_, rfl⟩
    have hsame := hkeeps w _ nameless fault (Prod.ext hfault rfl)
    exact ⟨fault, Prod.ext hfault hsame⟩
  · have hbuilt : ∃ p, (build.on w).1 = .ok p := ⟨_, rfl⟩
    obtain ⟨p, hbuilt⟩ := hbuilt
    obtain ⟨set, hbuilds, hlater⟩ := hstays (s.map .step) p _ (Prod.ext hbuilt rfl)
    rw [stepsOf_map] at hbuilds
    exact ⟨p, _, set, Prod.ext hbuilt rfl, hbuilds, hlater (t.map .step)⟩
  · obtain ⟨whole, hwhole⟩ := (hexists (s ++ t)).mpr ⟨by decide, hfits⟩
    obtain ⟨first, second, hfirst, hsecond, hrules, hmessages, -⟩ := hmerges s t whole hwhole
    have hs : (({ name := "signup" } : Builder).after s).build = .ok ⟨"signup", by decide,
        [("email", .listed [.token "required"])], [("required", "give one")], []⟩ := rfl
    have ht : (({ name := "signup" } : Builder).after t).build = .ok ⟨"signup", by decide,
        [("age", .listed [.spec ⟨"Min", ["18"]⟩]), ("email", .listed [.token "required"])],
        [("required", "missing")], []⟩ := rfl
    obtain rfl := Except.ok.inj (hs.symm.trans (builds_afterSteps_iff.mp hfirst))
    obtain rfl := Except.ok.inj (ht.symm.trans (builds_afterSteps_iff.mp hsecond))
    exact ⟨whole, hwhole, hrules.trans (by decide), hmessages.trans (by decide)⟩

end PayloadCheck.Rule.Workbench
