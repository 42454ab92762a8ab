import PayloadCheck.Proofs.Presence.Pool

/-!
# How opening a pool ends

Opening a pool has two proper endings: the pool is open, or the last refusal of the server is raised
and the pool is closed as before, with every group closed again that was made on the way (`Ended`).
A pool that is open, or that may ask the server at least once, comes to one of them, whatever the
server answers. A closed pool that may not ask at all comes to neither: it stays as it is, and no
fault tells of it. Main statement: `opening_ends_iff`.
-/

namespace PayloadCheck.Presence.Pool

variable {p q : Pool} {server : Server} {tries : Int} {delay : Number} {detail : String}

/-- A pool that is left closed as another one was: what was done since has closed every group that
it made. -/
structure LeftClosed (p q : Pool) : Prop where
  settings_eq : q.settings = p.settings
  current_eq : q.current = none
  acts_eq : q.acts = p.acts ++ since p q
  closed_eq : groupsClosed (since p q) = groupsMade (since p q)

/-- The endings of opening a pool that may ask the server a number of times. -/
inductive Ended (p : Pool) (tries : Int) : Except Fault Unit → Pool → Prop
  | opened {q : Pool} (hq : q.isOpen = true) : Ended p tries (.ok ()) q
  | refused {q : Pool} (detail : String) (hp : p.isOpen = false) (left : LeftClosed p q) :
      Ended p tries (.error (unreachable tries detail)) q

theorem LeftClosed.refused (hp : p.current = none) (detail : String) :
    LeftClosed p (p.afterRefusal detail) where
  settings_eq := rfl
  current_eq := hp
  acts_eq := by simp [since, Pool.afterRefusal]
  closed_eq := by simp [since, Pool.afterRefusal, groupsClosed, groupsMade]

theorem LeftClosed.again (h : LeftClosed ((p.afterRefusal detail).afterWaiting delay) q) :
    LeftClosed p q := by
  obtain ⟨hacts, hsince⟩ := since_again h.acts_eq
  refine ⟨h.settings_eq, h.current_eq, hacts, ?_⟩
  rw [hsince, groupsClosed_append, groupsMade_append, h.closed_eq]
  rfl

theorem LeftClosed.tryOpen {left : Nat} {fault : Fault} (hp : p.current = none)
    (h : (tryOpen server tries delay left p).1 = .error fault) :
    LeftClosed p (tryOpen server tries delay left p).2.1 := by
  -- along the tries: a refusal that is not the last one leaves the pool closed for the next try
  induction left generalizing p with
  | zero => cases h
  | succ left ih =>
    cases hserver : server.refusal? p.made with
    | none =>
      rw [tryOpen_of_opens hserver] at h
      cases h
    | some detail =>
      cases left with
      | zero =>
        rw [tryOpen_of_last hserver]
        exact .refused hp detail
      | succ left =>
        rw [tryOpen_of_refuses hserver] at h ⊢
        exact (ih (p := (p.afterRefusal detail).afterWaiting delay) hp h).again

theorem Ended.isOpen_of_ok (h : Ended p tries (.ok ()) q) : q.isOpen = true := by
  cases h with
  | opened hq => exact hq

theorem Tried.ended {n : Nat} {result : Except Fault Unit} (hp : p.isOpen = false)
    (h : Tried server p delay tries n result q)
    (hleft : ∀ fault, result = .error fault → LeftClosed p q) : Ended p tries result q := by
  cases h with
  | opened k hk opens asked current_eq =>
    refine .opened ?_
    simp [isOpen, current_eq]
  | refused refuses asked current_eq detail last => exact .refused detail hp (hleft _ rfl)

/-- Opening a closed pool that may ask the server is trying to open it at least once. -/
theorem open_of_closed (server : Server) (delay : Number) (hp : p.isOpen = false)
    (htries : 0 < tries) :
    ∃ left, tries.toNat = left + 1 ∧
      p.open_ server tries delay = tryOpen server tries delay (left + 1) p := by
  obtain ⟨left, hleft⟩ : ∃ left, tries.toNat = left + 1 := ⟨tries.toNat - 1, by omega⟩
  refine ⟨left, hleft, ?_⟩
  simp [open_, hp, hleft]

theorem open_of_no_tries (htries : tries ≤ 0) : p.open_ server tries delay = (.ok (), p, []) := by
  have hleft : tries.toNat = 0 := by omega
  cases hp : p.isOpen with
  | true => exact open_of_isOpen hp
  | false => simp [open_, hp, hleft, tryOpen]

theorem ended_of_closed (hp : p.isOpen = false) (htries : 0 < tries) :
    Ended p tries (p.open_ server tries delay).1 (p.open_ server tries delay).2.1 := by
  obtain ⟨left, -, hopen⟩ := open_of_closed server delay hp htries
  have hcurrent : p.current = none := isOpen_eq_false_iff.mp hp
  rw [hopen]
  exact (tryOpen_tried server tries delay left hcurrent).ended hp fun _ => .tryOpen hcurrent

theorem fails_iff_of_closed (server : Server) (delay : Number) (hp : p.isOpen = false)
    (htries : 0 < tries) :
    (∃ fault, (p.open_ server tries delay).1 = .error fault) ↔
      Refuses server p.made tries.toNat := by
  obtain ⟨left, hleft, hopen⟩ := open_of_closed server delay hp htries
  rw [hopen, hleft]
  exact (tryOpen_tried server tries delay left (isOpen_eq_false_iff.mp hp)).opening.fails_iff

/-- **How opening a pool ends.** It comes to one of its endings exactly if the pool is open already
or may ask the server at all; it raises a fault exactly if a closed pool may ask and is refused each
time; and it returns with the pool closed exactly if a closed pool may not ask. -/
theorem opening_ends_iff (p : Pool) (server : Server) (tries : Int) (delay : Number) :
    let ending := p.open_ server tries delay
    (Ended p tries ending.1 ending.2.1 ↔ p.isOpen = true ∨ 0 < tries) ∧
      ((∃ fault, ending.1 = .error fault) ↔
        p.isOpen = false ∧ 0 < tries ∧ Refuses server p.made tries.toNat) ∧
      (ending.1 = .ok () ∧ ending.2.1.isOpen = false ↔ p.isOpen = false ∧ tries ≤ 0) := by
  intro ending
  cases hp : p.isOpen with
  | true =>
    have hending : ending = (.ok (), p, []) := open_of_isOpen hp
    have hended : Ended p tries (.ok ()) p := .opened hp
    simp [hending, hended, hp]
  | false =>
    rcases Int.lt_or_le 0 tries with htries | htries
    · have hended : Ended p tries ending.1 ending.2.1 := ended_of_closed hp htries
      have hfails := fails_iff_of_closed server delay hp htries
      refine ⟨by simp [hended, htries], by simp [ending, hfails, htries], ?_⟩
      have hopen : ¬ (ending.1 = .ok () ∧ ending.2.1.isOpen = false) := by
        rintro ⟨hok, hclosed⟩
        rw [hok] at hended
        simp [hended.isOpen_of_ok] at hclosed
      simp [hopen, htries]
    · have hending : ending = (.ok (), p, []) := open_of_no_tries htries
      have hended : ¬ Ended p tries (.ok ()) p := by
        intro hended
        simp [hended.isOpen_of_ok] at hp
      have hnone : ¬ 0 < tries := by omega
      simp [hending, hended, hp, htries, hnone]

/-- A closed pool that may not ask the server returns as if it were open. -/
theorem opening_without_tries_is_silent : ¬ ∀ (p : Pool) (server : Server) (tries : Int)
    (delay : Number), Ended p tries (p.open_ server tries delay).1
      (p.open_ server tries delay).2.1 := by
  intro hended
  let p : Pool := ⟨{ host := "localhost", port := 5432, database := "fieldrules"
                     user := "fieldrules", password := "secret", password_ne := by decide
                     minSize := 1, maxSize := 5, timeout := .whole 30, seconds := 30
                     name := "presence" }, 0, none, []⟩
  have hopen : p.open_ ⟨fun _ => none⟩ 0 usualDelay = (.ok (), p, []) :=
    open_of_no_tries (by decide)
  have hp := hended p ⟨fun _ => none⟩ 0 usualDelay
  rw [hopen] at hp
  exact absurd hp.isOpen_of_ok (by decide)

end PayloadCheck.Presence.Pool
