import PayloadCheck.Presence.Pool
import PayloadCheck.Report.Metrics

/-!
# What becomes of the groups of a pool

The trace of a pool tells which groups were made and which of them were closed again. Whatever is
done with a pool, in whatever order and whatever the server answers, at most one group is left
unclosed, and it is the one in use (`Tidy`). Opening a closed pool asks until the server opens a
group or the tries are used up (`tryOpen_tried`). Main statement: `groups_accounted_for`.
-/

namespace PayloadCheck.Presence

open PayloadCheck.Report

/-! ## Reading a trace -/

/-- The groups that were made, in order. -/
def groupsMade (acts : List Act) : List Nat :=
  acts.filterMap fun
    | .made group => some group
    | _ => none

/-- The groups that were closed, in order. -/
def groupsClosed (acts : List Act) : List Nat :=
  acts.filterMap fun
    | .closed group => some group
    | _ => none

/-- The delays that were waited, in order. -/
def waits (acts : List Act) : List Number :=
  acts.filterMap fun
    | .waited delay => some delay
    | _ => none

/-- The groups that were made and not closed. -/
def unclosed (acts : List Act) : List Nat :=
  (groupsMade acts).filter fun group => group ∉ groupsClosed acts

@[simp] theorem groupsMade_append (acts more : List Act) :
    groupsMade (acts ++ more) = groupsMade acts ++ groupsMade more :=
  List.filterMap_append

@[simp] theorem groupsClosed_append (acts more : List Act) :
    groupsClosed (acts ++ more) = groupsClosed acts ++ groupsClosed more :=
  List.filterMap_append

@[simp] theorem waits_append (acts more : List Act) :
    waits (acts ++ more) = waits acts ++ waits more :=
  List.filterMap_append

/-- What is left unclosed by one trace after another. -/
theorem unclosed_append (acts more : List Act) :
    unclosed (acts ++ more) = (unclosed acts).filter (fun group => group ∉ groupsClosed more) ++
      (groupsMade more).filter fun group => group ∉ groupsClosed acts ∧ group ∉ groupsClosed more := by
  unfold unclosed
  rw [groupsMade_append, groupsClosed_append, List.filter_append, List.filter_filter]
  congr 1
  · apply List.filter_congr
    intro group _
    simp [Bool.and_comm]
  · apply List.filter_congr
    intro group _
    simp

namespace Pool

/-! ## Every group but the one in use is closed -/

/-- A pool whose trace tells of its groups: they are numbered as they are made, only groups that were
made are closed, and the one in use is the only one that is not. -/
structure Tidy (p : Pool) : Prop where
  made_eq : groupsMade p.acts = List.range p.made
  closed_lt : ∀ group ∈ groupsClosed p.acts, group < p.made
  unclosed_eq : unclosed p.acts = p.current.toList

theorem Tidy.new (settings : Settings) : Tidy { settings } where
  made_eq := rfl
  closed_lt := by simp [groupsClosed]
  unclosed_eq := rfl

variable {p : Pool}

theorem Tidy.afterRefusal (h : Tidy p) (hp : p.current = none) (detail : String) :
    Tidy (p.afterRefusal detail) where
  made_eq := by
    simp only [Pool.afterRefusal, groupsMade_append, h.made_eq, List.range_succ]
    rfl
  closed_lt := by
    intro group hgroup
    simp only [Pool.afterRefusal, groupsClosed_append, List.mem_append] at hgroup ⊢
    rcases hgroup with hold | hnew
    · exact Nat.lt_succ_of_lt (h.closed_lt group hold)
    · have : group = p.made := by simpa [groupsClosed] using hnew
      omega
  unclosed_eq := by
    -- the group that was refused is closed at once, and the others were closed before
    have hold : unclosed p.acts = [] := by simpa [hp] using h.unclosed_eq
    simp [Pool.afterRefusal, unclosed_append, hold, hp, groupsMade, groupsClosed]

theorem Tidy.afterWaiting (h : Tidy p) (delay : Number) : Tidy (p.afterWaiting delay) where
  made_eq := by simpa [Pool.afterWaiting, groupsMade] using h.made_eq
  closed_lt := by simpa [Pool.afterWaiting, groupsClosed] using h.closed_lt
  unclosed_eq := by simpa [Pool.afterWaiting, unclosed, groupsMade, groupsClosed] using h.unclosed_eq

theorem Tidy.afterOpening (h : Tidy p) (hp : p.current = none) : Tidy p.afterOpening where
  made_eq := by
    simp only [Pool.afterOpening, groupsMade_append, h.made_eq, List.range_succ]
    rfl
  closed_lt := by
    intro group hgroup
    have hold : group ∈ groupsClosed p.acts := by
      simpa [Pool.afterOpening, groupsClosed] using hgroup
    exact Nat.lt_succ_of_lt (h.closed_lt group hold)
  unclosed_eq := by
    have hold : unclosed p.acts = [] := by simpa [hp] using h.unclosed_eq
    have hnew : p.made ∉ groupsClosed p.acts := by
      intro hmem
      exact Nat.lt_irrefl _ (h.closed_lt _ hmem)
    have hclosed : groupsClosed [.made p.made, .opened p.made] = [] := rfl
    have hmade : groupsMade [.made p.made, .opened p.made] = [p.made] := rfl
    rw [Pool.afterOpening, unclosed_append, hold, hclosed, hmade]
    simp [hnew]

theorem Tidy.close (h : Tidy p) : Tidy p.close.1 := by
  unfold Pool.close
  cases hp : p.current with
  | none => exact h
  | some group =>
    have hold : unclosed p.acts = [group] := by simpa [hp] using h.unclosed_eq
    have hgroup : group < p.made := by
      have hmem : group ∈ unclosed p.acts := by simp [hold]
      have hmem : group ∈ groupsMade p.acts := (List.mem_filter.mp hmem).1
      simpa [h.made_eq] using hmem
    constructor
    · simpa [groupsMade] using h.made_eq
    · intro other hother
      simp only [groupsClosed_append, List.mem_append] at hother
      rcases hother with hold | hnew
      · exact h.closed_lt other hold
      · have : other = group := by simpa [groupsClosed] using hnew
        subst this
        exact hgroup
    · simp [unclosed_append, hold, groupsMade, groupsClosed]

theorem Tidy.tryOpen {server : Server} {tries : Int} {delay : Number} {left : Nat} (h : Tidy p)
    (hp : p.current = none) : Tidy (tryOpen server tries delay left p).2.1 := by
  induction left generalizing p with
  | zero => exact h
  | succ left ih =>
    cases hserver : server.refusal? p.made with
    | none =>
      rw [tryOpen_of_opens hserver]
      exact h.afterOpening hp
    | some detail =>
      have hrefused := h.afterRefusal hp detail
      cases left with
      | zero =>
        rw [tryOpen_of_last hserver]
        exact hrefused
      | succ left =>
        rw [tryOpen_of_refuses hserver]
        exact ih (hrefused.afterWaiting delay) hp

theorem isOpen_eq_false_iff : p.isOpen = false ↔ p.current = none := by
  simp [isOpen]

theorem Tidy.open_ {server : Server} {tries : Int} {delay : Number} (h : Tidy p) :
    Tidy (p.open_ server tries delay).2.1 := by
  unfold Pool.open_
  cases hp : p.isOpen with
  | true => exact h
  | false => exact h.tryOpen (isOpen_eq_false_iff.mp hp)

theorem Tidy.perform {server : Server} (h : Tidy p) (operation : Operation) :
    Tidy (p.perform server operation).2.1 := by
  cases operation with
  | open_ tries delay => exact h.open_
  | close => exact h.close
  | cursor => exact h
  | enter => exact h.open_
  | leave => exact h.close

theorem Tidy.performAll {server : Server} (h : Tidy p) (operations : List Operation) :
    Tidy (performAll server operations p).1 := by
  induction operations generalizing p with
  | nil => exact h
  | cons operation rest ih => exact ih (h.perform operation)

/-! ## How often the server is asked -/

/-- A server refuses a number of groups in a row. -/
def Refuses (server : Server) (first count : Nat) : Prop :=
  ∀ i < count, server.refusal? (first + i) ≠ none

/-- A server refuses a number of groups in a row and opens the next one. -/
def OpensAfter (server : Server) (first count : Nat) : Prop :=
  Refuses server first count ∧ server.refusal? (first + count) = none

theorem Refuses.succ {server : Server} {first count : Nat} (h : Refuses server (first + 1) count)
    (hfirst : server.refusal? first ≠ none) : Refuses server first (count + 1) := by
  intro i hi
  cases i with
  | zero => exact hfirst
  | succ i =>
    rw [Nat.add_comm i 1, ← Nat.add_assoc]
    exact h i (by omega)

theorem OpensAfter.succ {server : Server} {first count : Nat}
    (h : OpensAfter server (first + 1) count) (hfirst : server.refusal? first ≠ none) :
    OpensAfter server first (count + 1) := by
  refine ⟨h.1.succ hfirst, ?_⟩
  rw [Nat.add_comm count 1, ← Nat.add_assoc]
  exact h.2

theorem OpensAfter.le_of_refuses {server : Server} {first count n : Nat}
    (h : OpensAfter server first count) (hn : Refuses server first n) : n ≤ count := by
  rcases Nat.lt_or_ge count n with hlt | hle
  · exact absurd h.2 (hn count hlt)
  · exact hle

theorem OpensAfter.unique {server : Server} {first count other : Nat}
    (h : OpensAfter server first count) (h' : OpensAfter server first other) : count = other := by
  have := h.le_of_refuses h'.1
  have := h'.le_of_refuses h.1
  omega

/-- What was done with a pool since it was another one. -/
def since (p q : Pool) : List Act := q.acts.drop p.acts.length

/-- A pool after asking the server a number of times, with a delay between every two. -/
structure Asked (p q : Pool) (delay : Number) (times : Nat) : Prop where
  settings_eq : q.settings = p.settings
  acts_eq : q.acts = p.acts ++ since p q
  made_eq : groupsMade (since p q) = List.range' p.made times
  waits_eq : waits (since p q) = List.replicate (times - 1) delay

theorem Asked.refused (detail : String) (delay : Number) :
    Asked p (p.afterRefusal detail) delay 1 where
  settings_eq := rfl
  acts_eq := by simp [since, Pool.afterRefusal]
  made_eq := by simp [since, Pool.afterRefusal, groupsMade]
  waits_eq := by simp [since, Pool.afterRefusal, waits]

theorem Asked.opened (delay : Number) : Asked p p.afterOpening delay 1 where
  settings_eq := rfl
  acts_eq := by simp [since, Pool.afterOpening]
  made_eq := by simp [since, Pool.afterOpening, groupsMade]
  waits_eq := by simp [since, Pool.afterOpening, waits]

/-- What was done since a group was refused stands behind what was done with that group. -/
theorem since_again {q : Pool} {detail : String} {delay : Number}
    (h : q.acts = ((p.afterRefusal detail).afterWaiting delay).acts ++
      since ((p.afterRefusal detail).afterWaiting delay) q) :
    q.acts = p.acts ++ since p q ∧
      since p q = [.made p.made, .refused p.made detail, .closed p.made, .waited delay] ++
        since ((p.afterRefusal detail).afterWaiting delay) q := by
  have hacts : q.acts = p.acts ++
      ([.made p.made, .refused p.made detail, .closed p.made, .waited delay] ++
        since ((p.afterRefusal detail).afterWaiting delay) q) := by
    rw [h]
    simp [Pool.afterWaiting, Pool.afterRefusal]
  have hsince : since p q = [.made p.made, .refused p.made detail, .closed p.made, .waited delay] ++
      since ((p.afterRefusal detail).afterWaiting delay) q := by
    rw [since, hacts, List.drop_left]
  rw [hsince]
  exact ⟨hacts, rfl⟩

theorem Asked.again {q : Pool} {detail : String} {delay : Number} {times : Nat}
    (h : Asked ((p.afterRefusal detail).afterWaiting delay) q delay times) (htimes : 1 ≤ times) :
    Asked p q delay (times + 1) := by
  obtain ⟨hacts, hsince⟩ := since_again h.acts_eq
  constructor
  · exact h.settings_eq
  · exact hacts
  · rw [hsince, groupsMade_append, h.made_eq, List.range'_succ]
    rfl
  · obtain ⟨more, rfl⟩ : ∃ more, times = more + 1 := ⟨times - 1, by omega⟩
    rw [hsince, waits_append, h.waits_eq, Nat.add_sub_cancel, Nat.add_sub_cancel,
      List.replicate_succ]
    rfl

/-- What comes of asking a server that may be asked a number of times: it opens a group after some
refusals, or it refuses every time. -/
inductive Tried (server : Server) (p : Pool) (delay : Number) (tries : Int) (n : Nat) :
    Except Fault Unit → Pool → Prop
  | opened {q : Pool} (k : Nat) (hk : k < n) (opens : OpensAfter server p.made k)
      (asked : Asked p q delay (k + 1)) (current_eq : q.current = some (p.made + k)) :
      Tried server p delay tries n (.ok ()) q
  | refused {q : Pool} (refuses : Refuses server p.made n) (asked : Asked p q delay n)
      (current_eq : q.current = none) (detail : String)
      (last : server.refusal? (p.made + (n - 1)) = some detail) :
      Tried server p delay tries n (.error (unreachable tries detail)) q

theorem Tried.now {server : Server} {delay : Number} {tries : Int} {left : Nat}
    (hserver : server.refusal? p.made = none) :
    Tried server p delay tries (left + 1) (.ok ()) p.afterOpening :=
  .opened 0 (Nat.succ_pos left) ⟨fun i hi => absurd hi (Nat.not_lt_zero i), hserver⟩
    (Asked.opened delay) rfl

theorem Tried.again {server : Server} {delay : Number} {tries : Int} {left : Nat} {detail : String}
    {result : Except Fault Unit} {q : Pool} (hserver : server.refusal? p.made = some detail)
    (h : Tried server ((p.afterRefusal detail).afterWaiting delay) delay tries (left + 1) result q) :
    Tried server p delay tries (left + 2) result q := by
  have hfirst : server.refusal? p.made ≠ none := by simp [hserver]
  cases h with
  | opened k hk opens asked current_eq =>
    refine .opened (k + 1) (by omega) (opens.succ hfirst) (asked.again (by omega)) ?_
    rw [current_eq, Nat.add_comm k 1, ← Nat.add_assoc]
    rfl
  | refused refuses asked current_eq detail last =>
    refine .refused (refuses.succ hfirst) (asked.again (by omega)) current_eq detail ?_
    rw [← last]
    exact congrArg server.refusal? (Nat.add_right_comm p.made left 1)

theorem tryOpen_tried (server : Server) (tries : Int) (delay : Number) (left : Nat)
    (hp : p.current = none) :
    Tried server p delay tries (left + 1) (tryOpen server tries delay (left + 1) p).1
      (tryOpen server tries delay (left + 1) p).2.1 := by
  induction left generalizing p with
  | zero =>
    cases hserver : server.refusal? p.made with
    | none =>
      rw [tryOpen_of_opens hserver]
      exact .now hserver
    | some detail =>
      rw [tryOpen_of_last hserver]
      refine .refused ?_ (Asked.refused detail delay) hp detail hserver
      intro i hi
      obtain rfl : i = 0 := by omega
      simp [hserver]
  | succ left ih =>
    cases hserver : server.refusal? p.made with
    | none =>
      rw [tryOpen_of_opens hserver]
      exact .now hserver
    | some detail =>
      rw [tryOpen_of_refuses hserver]
      exact (ih (p := (p.afterRefusal detail).afterWaiting delay) hp).again hserver

/-- Opening a closed pool that may ask `n` times: it makes a group for every time that it asks, waits
between every two, and fails only if all of them are refused. -/
structure Opening (server : Server) (n : Nat) (delay : Number) (p : Pool)
    (result : Except Fault Unit) (q : Pool) : Prop where
  acts_eq : q.acts = p.acts ++ since p q
  made_of_opens : ∀ k, OpensAfter server p.made k →
    (groupsMade (since p q)).length = min n (k + 1)
  made_of_refuses : Refuses server p.made n → (groupsMade (since p q)).length = n
  waits_eq : waits (since p q) = List.replicate ((groupsMade (since p q)).length - 1) delay
  fails_iff : (∃ fault, result = .error fault) ↔ Refuses server p.made n
  of_error : ∀ fault, result = .error fault →
    fault.label = "OperationalError" ∧ q.isOpen = false
  of_ok : result = .ok () → q.isOpen = true

theorem Tried.opening {server : Server} {delay : Number} {tries : Int} {n : Nat}
    {result : Except Fault Unit} {q : Pool} (h : Tried server p delay tries n result q) :
    Opening server n delay p result q := by
  cases h with
  | opened k hk opens asked current_eq =>
    have hmade : (groupsMade (since p q)).length = k + 1 := by
      rw [asked.made_eq, List.length_range']
    refine ⟨asked.acts_eq, ?_, ?_, ?_, ?_, ?_, ?_⟩
    · intro other hother
      rw [hmade, opens.unique hother]
      have := opens.unique hother
      omega
    · intro hrefuses
      have := opens.le_of_refuses hrefuses
      omega
    · rw [hmade]
      exact asked.waits_eq
    · constructor
      · rintro ⟨fault, hfault⟩
        cases hfault
      · intro hrefuses
        have := opens.le_of_refuses hrefuses
        omega
    · intro fault hfault
      cases hfault
    · intro _
      simp [isOpen, current_eq]
  | refused refuses asked current_eq detail last =>
    have hmade : (groupsMade (since p q)).length = n := by
      rw [asked.made_eq, List.length_range']
    refine ⟨asked.acts_eq, ?_, fun _ => hmade, ?_, ?_, ?_, ?_⟩
    · intro k hk
      rw [hmade]
      have := hk.le_of_refuses refuses
      omega
    · rw [hmade]
      exact asked.waits_eq
    · exact ⟨fun _ => refuses, fun _ => ⟨_, rfl⟩⟩
    · intro fault hfault
      obtain rfl := Except.error.inj hfault
      exact ⟨rfl, isOpen_eq_false_iff.mpr current_eq⟩
    · intro hok
      cases hok

theorem open_of_isOpen {server : Server} {tries : Int} {delay : Number} (hp : p.isOpen = true) :
    p.open_ server tries delay = (.ok (), p, []) := by
  simp [open_, hp]

theorem opening_of_closed {server : Server} {n : Nat} {delay : Number} (hp : p.isOpen = false)
    (hn : 1 ≤ n) :
    Opening server n delay p (p.open_ server n delay).1 (p.open_ server n delay).2.1 := by
  obtain ⟨left, rfl⟩ : ∃ left, n = left + 1 := ⟨n - 1, by omega⟩
  have hopen : p.open_ server (left + 1 : Nat) delay =
      tryOpen server (left + 1 : Nat) delay (left + 1) p := by
    simp [open_, hp]
  rw [hopen]
  exact (tryOpen_tried server (left + 1 : Nat) delay left (isOpen_eq_false_iff.mp hp)).opening

/-! ## The size that is shown -/

/-- Metrics show the size of a pool that is open, and 0 or nothing for one that is closed. -/
def Shown (p : Pool) (m : Metrics) : Prop :=
  if p.isOpen then m.poolSizes.get? p.settings.name = some (.ofInt p.settings.minSize)
  else m.poolSizes.get? p.settings.name = none ∨ m.poolSizes.get? p.settings.name = some 0

variable {m : Metrics}

theorem Shown.tryOpen {server : Server} {tries : Int} {delay : Number} {left : Nat} (h : Shown p m)
    (hp : p.current = none) :
    Shown (tryOpen server tries delay left p).2.1
      ((tryOpen server tries delay left p).2.2.foldl Metrics.note m) := by
  induction left generalizing p with
  | zero => exact h
  | succ left ih =>
    cases hserver : server.refusal? p.made with
    | none =>
      rw [tryOpen_of_opens hserver]
      exact FieldMap.get?_insert_self m.poolSizes p.settings.name (.ofInt p.settings.minSize)
    | some detail =>
      cases left with
      | zero =>
        rw [tryOpen_of_last hserver]
        exact h
      | succ left =>
        rw [tryOpen_of_refuses hserver]
        exact ih (p := (p.afterRefusal detail).afterWaiting delay) h hp

theorem Shown.open_ {server : Server} {tries : Int} {delay : Number} (h : Shown p m) :
    Shown (p.open_ server tries delay).2.1
      ((p.open_ server tries delay).2.2.foldl Metrics.note m) := by
  cases hp : p.isOpen with
  | true =>
    rw [open_of_isOpen hp]
    exact h
  | false =>
    simp only [Pool.open_, hp]
    exact h.tryOpen (isOpen_eq_false_iff.mp hp)

theorem Shown.close (h : Shown p m) : Shown p.close.1 (p.close.2.foldl Metrics.note m) := by
  unfold Pool.close
  cases p.current with
  | none => exact h
  | some group => exact Or.inr (FieldMap.get?_insert_self m.poolSizes p.settings.name 0)

theorem Shown.perform {server : Server} (h : Shown p m) (operation : Operation) :
    Shown (p.perform server operation).2.1
      ((p.perform server operation).2.2.foldl Metrics.note m) := by
  cases operation with
  | open_ tries delay => exact h.open_
  | close => exact h.close
  | cursor => exact h
  | enter => exact h.open_
  | leave => exact h.close

theorem Shown.performAll {server : Server} (h : Shown p m) (operations : List Operation) :
    Shown (performAll server operations p).1
      ((performAll server operations p).2.foldl Metrics.note m) := by
  induction operations generalizing p m with
  | nil => exact h
  | cons operation rest ih =>
    simp only [Pool.performAll, List.foldl_append]
    exact ih (h.perform operation)

/-! ## Whatever is done with a pool -/

/-- What holds of a pool at any time, with the metrics of what happened. -/
structure Accounted (server : Server) (p : Pool) (m : Metrics) : Prop where
  groups_distinct : (groupsMade p.acts).Nodup
  at_most_one : (unclosed p.acts).length ≤ 1
  isOpen_iff : p.isOpen = true ↔ ∃ group, unclosed p.acts = [group]
  cursor_iff : ∀ group, p.cursor = .ok group ↔ unclosed p.acts = [group]
  open_of_isOpen : p.isOpen = true → ∀ tries delay,
    p.open_ server tries delay = (.ok (), p, [])
  open_of_closed : p.isOpen = false → ∀ (n : Nat) (delay : Number), 1 ≤ n →
    Opening server n delay p (p.open_ server n delay).1 (p.open_ server n delay).2.1
  close_closes : p.close.1.isOpen = false
  close_close : p.close.1.close = (p.close.1, [])
  cursor_of_closed : p.isOpen = false →
    p.perform server .cursor = (.error .poolClosed, p, []) ∧
      Fault.poolClosed.label = "RuntimeError"
  size_shown : Shown p m

theorem close_current (p : Pool) : p.close.1.current = none := by
  unfold close
  cases hp : p.current with
  | none => exact hp
  | some group => rfl

theorem close_of_closed (hp : p.current = none) : p.close = (p, []) := by
  simp [close, hp]

theorem Tidy.accounted {server : Server} (h : Tidy p) (hm : Shown p m) : Accounted server p m where
  groups_distinct := by
    rw [h.made_eq]
    exact List.nodup_range
  at_most_one := by
    rw [h.unclosed_eq]
    cases p.current <;> simp
  isOpen_iff := by
    rw [h.unclosed_eq, isOpen]
    cases p.current <;> simp
  cursor_iff := by
    intro group
    rw [h.unclosed_eq, cursor]
    cases p.current <;> simp
  open_of_isOpen := fun hp _ _ => Pool.open_of_isOpen hp
  open_of_closed := fun hp _ _ hn => opening_of_closed hp hn
  close_closes := isOpen_eq_false_iff.mpr (close_current p)
  close_close := close_of_closed (close_current p)
  cursor_of_closed := by
    intro hp
    refine ⟨?_, rfl⟩
    simp only [Pool.perform, cursor, isOpen_eq_false_iff.mp hp]
    rfl
  size_shown := hm

/-- Whatever is done with a pool, and whatever the server answers, every group but the one in use is
closed, and the metrics show the size of the pool. -/
theorem groups_accounted_for (settings : Settings) (server : Server)
    (operations : List Operation) (m : Metrics)
    (hm : m.poolSizes.get? settings.name = none ∨ m.poolSizes.get? settings.name = some 0) :
    Accounted server (performAll server operations { settings }).1
      ((performAll server operations { settings }).2.foldl Metrics.note m) := by
  have hshown : Shown { settings } m := hm
  exact ((Tidy.new settings).performAll operations).accounted (hshown.performAll operations)

/-- A pool that is opened at the second try, used, and closed twice. -/
theorem groups_accounted_for_reopened :
    let settings : Settings :=
      { host := "localhost", port := 5432, database := "fieldrules", user := "fieldrules"
        password := "secret", password_ne := by decide, minSize := 1, maxSize := 5
        timeout := .whole 30, seconds := 30, name := "presence" }
    let server : Server := ⟨fun group => if group = 0 then some "refused" else none⟩
    let operations : List Operation :=
      [.enter, .cursor, .close, .leave, .open_ 1 (.whole 0), .open_ 3 (.whole 0)]
    ({} : Metrics).poolSizes.get? settings.name = none ∧
      groupsMade (performAll server operations { settings }).1.acts = [0, 1, 2] ∧
      (performAll server operations { settings }).1.current = some 2 ∧
      Accounted server (performAll server operations { settings }).1
        ((performAll server operations { settings }).2.foldl Metrics.note {}) :=
  ⟨rfl, rfl, rfl, groups_accounted_for _ _ _ _ (Or.inl rfl)⟩

/-! ## Blocks -/

/-- A block that can be entered is what stands within it between entering and leaving. -/
theorem within_eq {α : Type} (p : Pool) (server : Server) (body : Pool → α) :
    (p.within server body).2 =
      match (p.perform server .enter).1 with
      | .error _ => performAll server [.enter] p
      | .ok _ => performAll server [.enter, .leave] p := by
  unfold within
  cases hentered : p.perform server .enter with
  | mk result rest =>
    cases result <;> simp [performAll, hentered]

end Pool

end PayloadCheck.Presence
