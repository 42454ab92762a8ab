import PayloadCheck.Proofs.Pattern.Counts

/-!
# Steady steps

Everything that is read of a pattern apart from repetitions, groups and sequences is read by steady
steps: references, names and numbers, conditions, options, classes, escapes and single characters.
-/

namespace PayloadCheck.Pattern

open PayloadCheck.Number PayloadCheck.Text

section

variable {α : Type}

theorem Steady.unless {c : Prop} [Decidable c] {detail : String} {back : Nat} {next : Step α}
    (h : detail.toList.take 3 ≠ ['m', 'i', 'n']) (hnext : Steady next) :
    Steady (if c then (do Step.refuse detail back; next) else next) :=
  .ite ((Steady.refuse h back).bind fun _ => hnext) hnext

end

/-! ### Groups -/

theorem Steady.checkSeal (number : Nat) : Steady (checkSeal number) := by
  unfold Pattern.checkSeal
  refine .get_bind (fun r => ?_) fun _ _ _ => rfl
  split
  · exact .pure _
  · exact (Steady.closedWidth _).bind fun _ =>
      .unless (by decide) (.ite (.refuse (by decide) _) (.pure _))

theorem Steady.reference (number back : Nat) : Steady (reference number back) := by
  unfold Pattern.reference
  refine (Steady.closedWidth _).bind fun width => ?_
  split
  · exact .refuse (by decide) _
  · exact (Steady.checkSeal _).bind fun _ => .pure _

theorem openGroup_some (n : String) : openGroup (some n) = (do
    let r ← get
    match r.names.lookup n with
    | some earlier =>
      Step.refuse (s!"redefinition of group name {quoted n} as group {natText r.widths.length}; " ++
        s!"was group {natText earlier}") (n.length + 1)
    | none =>
      modify fun r => { r with
        widths := r.widths ++ [none], names := r.names ++ [(n, r.widths.length)] }
      return r.widths.length) := by
  refine StateT.ext fun r => ?_
  unfold openGroup
  simp only [StateT.run_bind, StateT.run_get, pure_bind]
  cases r.names.lookup n <;> rfl

theorem Steady.openGroup (name : Option String) : Steady (openGroup name) := by
  cases name with
  | none =>
    -- what is set differs from the reading in the widths alone
    have hmodify : Steady (modify fun r : Reading => { r with widths := r.widths ++ [none] }) :=
      .modifies (fun _ => rfl) fun _ _ => rfl
    exact Steady.groupCount.bind fun number => hmodify.bind fun _ => .pure number
  | some n =>
    have hmodify : Steady (modify fun r : Reading => { r with
        widths := r.widths ++ [none], names := r.names ++ [(n, r.widths.length)] }) :=
      .modifies (fun _ => rfl) fun _ _ => rfl
    rw [openGroup_some]
    refine .get_bind (fun r => ?_) fun _ _ _ => rfl
    split
    · exact .refuse (by simp [toString]) _
    · exact hmodify.bind fun _ => .pure _

theorem Steady.closeGroup (number : Nat) (body : Pattern) : Steady (closeGroup number body) :=
  .modifies (fun _ => rfl) fun _ _ => rfl

theorem Steady.checkName (name : List Char) : Steady (checkName name) :=
  .ite (.refuse (by simp [toString]) _) (.pure _)

theorem Steady.numberOfName (name : List Char) : Steady (numberOfName name) := by
  unfold Pattern.numberOfName
  refine .get_bind (fun r => ?_) fun _ _ _ => rfl
  split
  · exact .pure _
  · exact .refuse (by simp [toString]) _

theorem Steady.conditionGroup : Steady conditionGroup := by
  unfold Pattern.conditionGroup
  refine (Steady.takeName _ _).bind fun name => .ite (.numberOfName _) ?_
  split
  · next number _ =>
    have hnote : ∀ place, Steady (modify fun r : Reading =>
        if (r.conditions.lookup number).isSome then r
        else { r with conditions := r.conditions ++ [(number, place - (name.length + 1))] }) := by
      refine fun place => .modifies (fun r => ?_) fun r rest => ?_
      · split <;> rfl
      · dsimp only [Reading.withRest]
        split <;> rfl
    exact .unless (by decide) (.unless (by simp [toString])
      (Steady.place.bind fun place => (hnote place).bind fun _ => .pure _))
  · exact .refuse (by simp [toString]) _

/-! ### Escapes -/

theorem Steady.badEscape {α : Type} (written : List Char) :
    Steady (badEscape written : Step α) :=
  .refuse (by simp) _

theorem Steady.readHexEscape (letter : Char) (digits : Nat) :
    Steady (readHexEscape letter digits) := by
  unfold Pattern.readHexEscape
  refine (Steady.takeWhile _ _).bind fun written => .unless (by simp) ?_
  exact .ite ((Steady.badEscape _).bind fun _ => .pure _) (.pure _)

theorem Steady.readNameEscape : Steady readNameEscape := by
  unfold Pattern.readNameEscape
  refine (Steady.takeIf _).bind fun b => .unless (by decide) ?_
  refine (Steady.takeName _ _).bind fun name => ?_
  split
  · exact .pure _
  · exact .refuse (by simp [toString]) _

theorem Steady.octalCode (digits : List Char) : Steady (octalCode digits) := by
  unfold Pattern.octalCode
  exact .unless (by simp) (.pure _)

theorem Steady.readCode (c : Char) : Steady (readCode? c) := by
  unfold readCode?
  split
  · exact (Steady.readHexEscape _ _).bind fun _ => .pure _
  · exact (Steady.readHexEscape _ _).bind fun _ => .pure _
  · exact (Steady.readHexEscape _ _).bind fun _ => .pure _
  · exact Steady.readNameEscape.bind fun _ => .pure _
  · exact .pure _

theorem Steady.readDigitEscape (first : Char) : Steady (readDigitEscape first) := by
  unfold Pattern.readDigitEscape
  refine .ite ((Steady.takeWhile _ _).bind fun _ => .pure _) ?_
  refine (Steady.takeWhile _ _).bind fun second => ?_
  have hreference : ∀ digits, Steady (do
      if readDecimal digits < (← Pattern.groupCount) then
        return Escape.again (← Pattern.reference (readDecimal digits) (second.length + 2))
      Step.refuse s!"invalid group reference {natText (readDecimal digits)}" (second.length + 2 - 1)) :=
    fun digits => Steady.groupCount.bind fun _ =>
      .ite ((Steady.reference _ _).bind fun _ => .pure _) (.refuse (by simp [toString]) _)
  dsimp only
  refine .ite ((Steady.takeWhile _ _).bind fun third => .ite ?_ (hreference _)) (hreference _)
  exact (Steady.octalCode _).bind fun _ => .pure _

theorem Steady.readEscape (c : Char) : Steady (readEscape c) := by
  unfold Pattern.readEscape
  split
  · exact .pure _
  split
  · exact .pure _
  split
  · exact .pure _
  refine (Steady.readCode c).bind fun code => ?_
  split
  · exact .pure _
  refine .ite (.readDigitEscape c) ?_
  exact .ite ((Steady.badEscape _).bind fun _ => .pure _) (.pure _)

theorem Steady.readMemberEscape (c : Char) : Steady (readMemberEscape c) := by
  unfold Pattern.readMemberEscape
  split
  · exact .pure _
  split
  · exact .pure _
  refine (Steady.readCode c).bind fun code => ?_
  split
  · exact .pure _
  refine .ite ((Steady.takeWhile _ _).bind fun _ =>
    (Steady.octalCode _).bind fun _ => .pure _) ?_
  exact .ite ((Steady.badEscape _).bind fun _ => .pure _) (.pure _)

/-! ### Sets -/

theorem Steady.readMember (t : Token) : Steady (readMember t) := by
  cases t with
  | escaped c => exact .readMemberEscape c
  | plain c => exact .pure _

theorem Steady.rangeOf (first last : Member) (this that : Token) :
    Steady (rangeOf first last this that) := by
  have hbad : Steady (Step.refuse ("bad character range " ++ this.text ++ "-" ++ that.text)
      (this.length + 1 + that.length) : Step Member) := .refuse (by simp) _
  unfold Pattern.rangeOf
  split
  · exact .ite hbad (.pure _)
  · exact hbad

theorem Steady.openSet {α : Type} (start : Nat) : Steady (openSet start : Step α) :=
  Steady.place.bind fun _ => .refuse (by decide) _

theorem Steady.readMembers (start n : Nat) (members : List Member) :
    Steady (readMembers start n members) := by
  induction n generalizing members with
  | zero => exact .pure _
  | succ n ih =>
    unfold Pattern.readMembers
    refine Steady.take.bind fun t => ?_
    split
    · exact .openSet _
    · next this =>
      refine .ite (.pure _) ?_
      refine (Steady.readMember _).bind fun first => (Steady.takeIf _).bind fun b => ?_
      refine .ite (Steady.take.bind fun t => ?_) (ih _)
      split
      · exact .openSet _
      · refine .ite (.pure _) ?_
        exact (Steady.readMember _).bind fun last => (Steady.rangeOf _ _ _ _).bind fun _ => ih _

theorem Steady.readSet : Steady readSet := by
  unfold Pattern.readSet
  refine Steady.place.bind fun _ => (Steady.takeIf _).bind fun _ =>
    Steady.remaining.bind fun _ => (Steady.readMembers _ _ _).bind fun members => ?_
  split <;> exact .pure _

/-! ### Options -/

theorem Steady.notAnOption {α : Type} (t : Token) {missing : String}
    (h : missing.toList.take 3 ≠ ['m', 'i', 'n']) : Steady (notAnOption t missing : Step α) := by
  cases t with
  | plain c =>
    refine .refuse ?_ _
    split
    · decide
    · exact h
  | escaped c => exact .refuse h _

theorem Steady.readSwitchOn (n : Nat) (c : Char) (on : List Char) :
    Steady (readSwitchOn n c on) := by
  induction n generalizing c on with
  | zero => exact .pure _
  | succ n ih =>
    unfold Pattern.readSwitchOn
    refine .unless (by decide) (.unless (by decide) (Steady.take.bind fun t => ?_))
    split
    · exact .refuse (by decide) _
    · refine .ite (.pure _) ?_
      split
      · exact ih _ _
      · exact .notAnOption _ (by decide)

theorem Steady.readSwitchOff (n : Nat) (c : Char) (off : List Char) :
    Steady (readSwitchOff n c off) := by
  induction n generalizing c off with
  | zero => exact .pure _
  | succ n ih =>
    unfold Pattern.readSwitchOff
    refine .unless (by decide) (Steady.take.bind fun t => ?_)
    split
    · exact .refuse (by decide) _
    · refine .ite (.pure _) ?_
      split
      · exact ih _ _
      · exact .notAnOption _ (by decide)

theorem Steady.readOff : Steady readOff := by
  unfold Pattern.readOff
  refine Steady.take.bind fun t => ?_
  split
  · exact .refuse (by decide) _
  · split
    · exact Steady.remaining.bind fun _ => .readSwitchOff _ _ _
    · exact .notAnOption _ (by decide)

theorem Steady.readOptions (first : Char) : Steady (readOptions first) := by
  have hrest : ∀ on off : List Char, Steady (do
      if off.contains 't' then Step.refuse "bad inline flags: cannot turn off global flag" 1
      if on.any off.contains then Step.refuse "bad inline flags: flag turned on and off" 1
      return some ({ on, off } : Change)) :=
    fun on off => .unless (by decide) (.unless (by decide) (.pure _))
  have hswitch : ∀ on, Steady (modify fun r : Reading =>
      { r with switched := r.switched ++ on }) :=
    fun on => .modifies (fun _ => rfl) fun _ _ => rfl
  have hall : ∀ (on : List Char) (sign : Char), Steady (do
      if sign = ')' then
        modify fun r => { r with switched := r.switched ++ on }
        return none
      if on.contains 't' then Step.refuse "bad inline flags: cannot turn on global flag" 1
      let off ← if sign = '-' then Pattern.readOff else Pure.pure []
      if off.contains 't' then Step.refuse "bad inline flags: cannot turn off global flag" 1
      if on.any off.contains then Step.refuse "bad inline flags: flag turned on and off" 1
      return some ({ on, off } : Change)) :=
    fun on sign => .ite ((hswitch on).bind fun _ => .pure _)
      (.unless (by decide) (.ite (Steady.readOff.bind fun _ => hrest _ _)
        ((Steady.pure _).bind fun _ => hrest _ _)))
  unfold Pattern.readOptions
  exact .ite ((Steady.pure _).bind fun _ => hall _ _) (Steady.remaining.bind fun _ =>
    (Steady.readSwitchOn _ _ _).bind fun (on, sign) => hall on sign)

theorem Steady.readManner : Steady readManner :=
  (Steady.takeIf _).bind fun _ => .ite (.pure _)
    ((Steady.takeIf _).bind fun _ => .ite (.pure _) (.pure _))

/-! ### Groups and repetitions -/

theorem Steady.readNamed : Steady readNamed := by
  unfold Pattern.readNamed
  refine (Steady.takeIf _).bind fun _ => .ite ?_ ?_
  · exact (Steady.takeName _ _).bind fun _ => (Steady.checkName _).bind fun _ => .pure _
  · refine (Steady.takeIf _).bind fun _ => .ite ?_ ?_
    · exact (Steady.takeName _ _).bind fun _ => (Steady.checkName _).bind fun _ =>
        (Steady.numberOfName _).bind fun _ => (Steady.reference _ _).bind fun _ => .pure _
    · refine Steady.take.bind fun t => ?_
      split
      · exact .refuse (by decide) _
      · exact .refuse (by simp) _

theorem Steady.readBehind : Steady readBehind := by
  unfold Pattern.readBehind
  refine Steady.take.bind fun t => ?_
  split
  · exact .refuse (by decide) _
  · exact .pure _
  · exact .pure _
  · exact .refuse (by simp) _

theorem Steady.skipComment (start : Nat) : Steady (skipComment start) := by
  unfold Pattern.skipComment
  exact Steady.remaining.bind fun _ => (Steady.skipPast _ _).bind fun _ =>
    .ite (.pure _) (Steady.place.bind fun _ => .refuse (by decide) _)

theorem Steady.readOpening (start : Nat) : Steady (readOpening start) := by
  unfold Pattern.readOpening
  refine (Steady.takeIf _).bind fun _ => .ite (.pure _) (Steady.take.bind fun t => ?_)
  split
  · exact .refuse (by decide) _
  · exact .readNamed
  · exact .pure _
  · exact .skipComment _
  · exact .pure _
  · exact .pure _
  · exact .readBehind
  · exact .pure _
  · exact .pure _
  · split
    · refine (Steady.readOptions _).bind fun change => ?_
      split <;> exact .pure _
    · exact .refuse (by simp) _

theorem Steady.close (start : Nat) : Steady (close start) := by
  unfold Pattern.close
  exact (Steady.takeIf _).bind fun _ => .ite (Steady.place.bind fun _ => .refuse (by decide) _)
    (.pure _)

theorem Steady.repeatLast (sign least : Nat) (most : Option Nat) (done : List Pattern) :
    Steady (repeatLast sign least most done) := by
  unfold Pattern.repeatLast
  refine Steady.place.bind fun _ => ?_
  split
  · exact .refuse (by decide) _
  · exact .unless (by decide) (.unless (by decide) (Steady.readManner.bind fun _ => .pure _))

theorem Steady.readSingle (t : Token) : Steady (readSingle t) := by
  unfold Pattern.readSingle
  split
  · refine (Steady.readEscape _).bind fun escape => ?_
    split <;> exact .pure _
  · exact .readSet
  all_goals exact .pure _

end PayloadCheck.Pattern
