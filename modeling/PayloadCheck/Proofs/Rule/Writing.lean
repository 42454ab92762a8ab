import PayloadCheck.Rule.Config

/-!
# Ways of writing a rule

A rule with parameters can be written as one token, as an item of a configuration with the
parameters in a list, and as a step of a builder. In a token the parameters form a row, and each of
them may be quoted or, where its characters allow it, stand as it is. Reading a row gives back the
fields that were written (`read_of_written`), and so the three ways give one specification
(`written_rule_agrees`).
-/

namespace PayloadCheck.Rule

open PayloadCheck.Text

namespace Row

/-! ### Written rows -/

/-- The characters of a field between quotes: a quote is written twice. -/
def doubled (cs : List Char) : List Char := cs.flatMap fun c => if c = '"' then ['"', '"'] else [c]

/-- Fields that may stand as they are. -/
structure IsBare (cs : List Char) : Prop where
  plain : ∀ c ∈ cs, c ≠ ',' ∧ isLineEnd c = false
  start : cs.head? ≠ some '"'

/-- The ways of writing one field. -/
inductive WritesField (cs : List Char) : List Char → Prop
  | wrapped : WritesField cs ('"' :: doubled cs ++ ['"'])
  | bare (h : IsBare cs) : WritesField cs cs

/-- Fields written one after the other with commas between them, each in its own way. -/
inductive WritesFields : List (List Char) → List Char → Prop
  | last {f t} (h : WritesField f t) : WritesFields [f] t
  | more {f g t u rest} (h : WritesField f t) (hrest : WritesFields (g :: rest) u) :
      WritesFields (f :: g :: rest) (t ++ ',' :: u)

/-- A written row. A single empty field has to be wrapped, as nothing at all is no field. -/
def Written (fields : List (List Char)) (t : List Char) : Prop := WritesFields fields t ∧ t ≠ []

/-! ### Reading a field -/

namespace Reading

/-- The reader behind the finished fields `done` and the field `cs`, which is still open. -/
structure Ends (r : Reading) (done : List (List Char)) (cs : List Char) : Prop where
  fields : r.fields = done
  current : r.current = cs.reverse
  state : r.state = .rowStart ∨ r.state = .fieldStart ∨ r.state = .inField ∨ r.state = .afterQuote

theorem Ends.step_comma {r : Reading} {done : List (List Char)} {cs : List Char}
    (h : r.Ends done cs) : r.step ',' = .ok ⟨.fieldStart, cs :: done, [], 0⟩ := by
  have hclose : r.close .fieldStart = ⟨.fieldStart, cs :: done, [], 0⟩ := by
    simp [close, h.fields, h.current]
  rw [← hclose]
  rcases h.state with hs | hs | hs | hs <;> simp [step, beginField, hs, isLineEnd]

theorem Ends.finish_eq {r : Reading} {done : List (List Char)} {cs : List Char}
    (h : r.Ends done cs) (hs : r.state ≠ .rowStart) : r.finish = done.reverse ++ [cs] := by
  have hclose : (r.close .rowEnd).fields.reverse = done.reverse ++ [cs] := by
    simp [close, h.fields, h.current]
  rw [← hclose]
  rcases h.state with hs' | hs' | hs' | hs'
  · exact absurd hs' hs
  all_goals simp [finish, hs']

variable (done : List (List Char)) {current : List Char} {n : Nat}

/-- Between quotes every character is taken, and of two quotes one. -/
theorem foldlM_doubled {cs : List Char} (hn : n + cs.length ≤ fieldLimit) :
    (doubled cs).foldlM step ⟨.inQuotes, done, current, n⟩ =
      .ok ⟨.inQuotes, done, cs.reverse ++ current, n + cs.length⟩ := by
  induction cs generalizing current n with
  | nil => rfl
  | cons c rest ih =>
    rw [List.length_cons] at hn
    have hroom : ¬ fieldLimit ≤ n := by omega
    have hrest : (doubled rest).foldlM step ⟨.inQuotes, done, c :: current, n + 1⟩ =
        .ok ⟨.inQuotes, done, (c :: rest).reverse ++ current, n + (c :: rest).length⟩ := by
      rw [ih (by omega)]
      simp [Nat.add_comm, Nat.add_left_comm]
    by_cases hc : c = '"'
    · subst hc
      rw [← hrest]
      simp [doubled, step, push, hroom, bind, Except.bind]
    · rw [← hrest]
      simp [doubled, step, push, hc, hroom, bind, Except.bind]

/-- Inside a bare field every character but a comma and a line end is taken. -/
theorem foldlM_plain {cs : List Char} (hcs : ∀ c ∈ cs, c ≠ ',' ∧ isLineEnd c = false)
    (hn : n + cs.length ≤ fieldLimit) :
    cs.foldlM step ⟨.inField, done, current, n⟩ =
      .ok ⟨.inField, done, cs.reverse ++ current, n + cs.length⟩ := by
  induction cs generalizing current n with
  | nil => rfl
  | cons c rest ih =>
    obtain ⟨⟨hcomma, hend⟩, hrest⟩ := List.forall_mem_cons.mp hcs
    rw [List.length_cons] at hn
    have hroom : ¬ fieldLimit ≤ n := by omega
    have hstep : step ⟨.inField, done, current, n⟩ c = .ok ⟨.inField, done, c :: current, n + 1⟩ := by
      simp [step, push, hcomma, hend, hroom]
    rw [List.foldlM_cons, hstep]
    change rest.foldlM step ⟨.inField, done, c :: current, n + 1⟩ = _
    rw [ih hrest (by omega)]
    simp [Nat.add_comm, Nat.add_left_comm]

/-- A character other than a comma, a quote and a line end begins a bare field. -/
theorem step_start {s : State} (hs : s = .rowStart ∨ s = .fieldStart) {c : Char}
    (hcomma : c ≠ ',') (hend : isLineEnd c = false) (hquote : c ≠ '"') :
    step ⟨s, done, [], 0⟩ c = .ok ⟨.inField, done, [c], 1⟩ := by
  rcases hs with rfl | rfl <;> simp [step, beginField, push, hcomma, hend, hquote, fieldLimit]

/-- Reading a written field from its start leads to its end. Only where nothing is written does
the reader stay where it was. -/
theorem foldlM_field {s : State} (hs : s = .rowStart ∨ s = .fieldStart) {cs t : List Char}
    (hwritten : WritesField cs t) (hlength : cs.length ≤ fieldLimit) :
    ∃ r, t.foldlM step ⟨s, done, [], 0⟩ = .ok r ∧ r.Ends done cs ∧ (t ≠ [] → r.state ≠ .rowStart) := by
  cases hwritten with
  | wrapped =>
    refine ⟨⟨.afterQuote, done, cs.reverse, cs.length⟩, ?_, ⟨rfl, rfl, by simp⟩, by simp⟩
    have hopen : step ⟨s, done, [], 0⟩ '"' = .ok ⟨.inQuotes, done, [], 0⟩ := by
      rcases hs with rfl | rfl <;> rfl
    rw [List.cons_append, List.foldlM_cons, hopen]
    change (doubled cs ++ ['"']).foldlM step ⟨.inQuotes, done, [], 0⟩ = _
    rw [List.foldlM_append, foldlM_doubled done (by omega)]
    simp [step, bind, Except.bind, pure, Except.pure]
  | bare h =>
    cases cs with
    | nil =>
      refine ⟨⟨s, done, [], 0⟩, rfl, ⟨rfl, rfl, ?_⟩, by simp⟩
      rcases hs with rfl | rfl <;> simp
    | cons c rest =>
      obtain ⟨⟨hcomma, hend⟩, hrest⟩ := List.forall_mem_cons.mp h.plain
      have hquote : c ≠ '"' := by
        intro hc
        exact h.start (by simp [hc])
      rw [List.length_cons] at hlength
      refine ⟨⟨.inField, done, rest.reverse ++ [c], 1 + rest.length⟩, ?_, ⟨rfl, by simp, by simp⟩,
        by simp⟩
      rw [List.foldlM_cons, step_start done hs hcomma hend hquote]
      change rest.foldlM step ⟨.inField, done, [c], 1⟩ = _
      exact foldlM_plain done hrest (by omega)

/-- Reading written fields gives them after those that are finished. -/
theorem foldlM_fields {fields : List (List Char)} {t : List Char} (hwritten : WritesFields fields t)
    (hlength : ∀ f ∈ fields, f.length ≤ fieldLimit) {s : State}
    (hs : (s = .rowStart ∧ t ≠ []) ∨ s = .fieldStart) :
    ∃ r, t.foldlM step ⟨s, done, [], 0⟩ = .ok r ∧ r.finish = done.reverse ++ fields := by
  -- along the row: each field is read to its end, and the comma behind it finishes it, so that the
  -- fields behind it are read from the start of a field, with one more that is done
  induction hwritten generalizing done s with
  | @last f t h =>
    obtain ⟨r, hr, hends, hstart⟩ :=
      foldlM_field done (hs.imp_left And.left) h (hlength f (by simp))
    refine ⟨r, hr, hends.finish_eq ?_⟩
    rcases hs with ⟨-, ht⟩ | rfl
    · exact hstart ht
    · -- at the start of a further field nothing written is an empty field
      by_cases ht : t = []
      · subst ht
        cases hr
        simp
      · exact hstart ht
  | @more f g t u rest h hrest ih =>
    obtain ⟨hf, hmore⟩ := List.forall_mem_cons.mp hlength
    obtain ⟨r, hr, hends, -⟩ := foldlM_field done (hs.imp_left And.left) h hf
    obtain ⟨r', hr', hfinish⟩ := ih (f :: done) hmore (Or.inr rfl)
    refine ⟨r', ?_, by simpa using hfinish⟩
    rw [List.foldlM_append, hr]
    change (',' :: u).foldlM step r = _
    rw [List.foldlM_cons, hends.step_comma]
    exact hr'

end Reading

/-- Reading a written row gives its fields. -/
theorem read_of_written {fields : List (List Char)} {t : List Char} (hwritten : Written fields t)
    (hlength : ∀ f ∈ fields, f.length ≤ fieldLimit) : read t = .ok fields := by
  obtain ⟨hfields, hne⟩ := hwritten
  obtain ⟨r, hr, hfinish⟩ :=
    Reading.foldlM_fields [] hfields hlength (Or.inl ⟨rfl, hne⟩)
  simp only [read, hr]
  exact congrArg Except.ok hfinish

end Row

/-! ### Written rules -/

/-- The ways of writing parameters behind the name of a rule: one row of fields, none of them too
long; or, where the name takes its parameters whole, a single one as it is. -/
inductive WritesParameters (name : String) : List String → String → Prop
  | row {ps t} (hname : lower (trim name) ≠ "regex")
      (hrow : Row.Written (ps.map String.toList) t.toList)
      (hlength : ∀ p ∈ ps, p.length ≤ Row.fieldLimit) : WritesParameters name ps t
  | whole {t} (hname : lower (trim name) = "regex") : WritesParameters name [t] t

theorem WritesParameters.ne_nil {name : String} {ps : List String} {t : String}
    (h : WritesParameters name ps t) : ps ≠ [] := by
  cases h with
  | row hname hrow hlength =>
    intro hps
    subst hps
    cases hrow.1
  | whole hname => exact List.cons_ne_nil _ _

theorem readParameters_of_writes {name : String} {ps : List String} {t : String}
    (h : WritesParameters name ps t) : readParameters name.toList t.toList = .ok ps := by
  cases h with
  | row hname hrow hlength =>
    have hwhole : takesWhole name.toList = false := beq_false_of_ne hname
    have hread : Row.read t.toList = .ok (ps.map String.toList) := by
      apply Row.read_of_written hrow
      intro f hf
      obtain ⟨p, hp, rfl⟩ := List.mem_map.mp hf
      rw [String.length_toList]
      exact hlength p hp
    simp [readParameters, hwhole, hread, Function.comp_def]
  | whole hname =>
    have hwhole : takesWhole name.toList = true := beq_of_eq hname
    simp [readParameters, hwhole]

theorem readToken_of_writes {name : String} (hcolon : ':' ∉ name.toList)
    (hname : identifier name ≠ "") {ps : List String} {t : String} (h : WritesParameters name ps t) :
    readToken (name ++ ":" ++ t) = .ok (some ⟨identifier name, ps⟩) := by
  have hchars : (name ++ ":" ++ t).toList = name.toList ++ ':' :: t.toList := by simp
  have hblank : allBlank (name ++ ":" ++ t) = false := by
    rw [allBlank, hchars, List.all_append, List.all_cons]
    simp [show isBlank ':' = false from rfl]
  have hid : (identifierChars name.toList).isEmpty = false := by
    cases hcs : identifierChars name.toList with
    | nil =>
      have hempty : identifier name = "" := by rw [identifier, hcs]
      exact absurd hempty hname
    | cons c rest => rfl
  unfold readToken
  rw [hblank, hchars, cut?_append_sep hcolon]
  simp only [readParameters_of_writes h]
  simp [hid, identifier, bind, Except.bind, pure, Except.pure]

theorem parameterTexts_texts (ps : List String) :
    Builder.parameterTexts (ps.map Value.text) = .ok ps := by
  induction ps with
  | nil => rfl
  | cons p rest ih =>
    rw [List.map_cons, Builder.parameterTexts, ih]
    rfl

theorem specOf_texts {name : String} (hname : identifier name ≠ "") (ps : List String) :
    Builder.specOf (.text name) (ps.map Value.text) = .ok ⟨identifier name, ps⟩ := by
  unfold Builder.specOf
  rw [parameterTexts_texts]
  simp [Value.plain, hname, bind, Except.bind, pure, Except.pure]

/-- A token, an item of a configuration and a step of a builder that write one rule with the same
parameters give the same specification. -/
theorem written_rule_agrees {name : String} (hcolon : ':' ∉ name.toList)
    (hname : identifier name ≠ "") {ps : List String} {t : String}
    (hwritten : WritesParameters name ps t) (field : String) (b : Builder) :
    readToken (name ++ ":" ++ t) = .ok (some ⟨identifier name, ps⟩) ∧
      readConfigRule field (.map [(.text "rule", .text name),
        (.text "params", .list (ps.map .text))]) = .ok (.spec ⟨identifier name, ps⟩) ∧
      b.rule field (.text name) (ps.map .text) =
        .ok (b.push field (.spec ⟨identifier name, ps⟩)) := by
  refine ⟨readToken_of_writes hcolon hname hwritten, ?_, ?_⟩
  · have hrule : Value.field? "rule" [(.text "rule", .text name),
        (.text "params", .list (ps.map .text))] = some (.text name) := by
      simp [Value.field?]
    have hparams : configParameters [(.text "rule", .text name),
        (.text "params", .list (ps.map .text))] = ps.map .text := by
      simp [configParameters, Value.field?]
    simp only [readConfigRule, hrule, hparams, specOf_texts hname]
    rfl
  · have hne : (ps.map Value.text).isEmpty = false := by
      cases ps with
      | nil => exact absurd rfl hwritten.ne_nil
      | cons p rest => rfl
    unfold Builder.rule
    rw [hne, specOf_texts hname]
    rfl

/-- Two parameters of `in`, the first quoted for its comma and its quote, the second bare. -/
theorem written_rule_agrees_quoted :
    readToken "in:\"a,\"\"b\",c\"d" = .ok (some ⟨"In", ["a,\"b", "c\"d"]⟩) ∧
      readConfigRule "field" (.map [(.text "rule", .text "in"),
        (.text "params", .list [.text "a,\"b", .text "c\"d"])]) =
          .ok (.spec ⟨"In", ["a,\"b", "c\"d"]⟩) ∧
      Builder.rule {} "field" (.text "in") [.text "a,\"b", .text "c\"d"] =
        .ok (Builder.push {} "field" (.spec ⟨"In", ["a,\"b", "c\"d"]⟩)) := by
  have hrow : Row.Written (["a,\"b", "c\"d"].map String.toList) "\"a,\"\"b\",c\"d".toList := by
    have hbare : Row.IsBare "c\"d".toList := ⟨by simp [Row.isLineEnd], by simp⟩
    exact ⟨.more (t := "\"a,\"\"b\"".toList) .wrapped (.last (.bare hbare)), by simp⟩
  have hwrites : WritesParameters "in" ["a,\"b", "c\"d"] "\"a,\"\"b\",c\"d" :=
    .row (by decide) hrow (by decide)
  exact written_rule_agrees (by decide) (by decide) hwrites "field" {}

end PayloadCheck.Rule
