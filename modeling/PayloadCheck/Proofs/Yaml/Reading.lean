import PayloadCheck.Proofs.Value.Faults
import PayloadCheck.Yaml.Content

/-!
# What reading a document may raise

A document is not well formed, or a text in it that is marked as a value is none. Most such texts
are faults of their content; the others are an empty number, a truth value of no known word, a stamp
of no known form, and the code of a character that is too large (`Misfit`). The tokens can raise
only the last one, the nodes none, and the values all but the last one (`misfit_of_read`).
-/

namespace PayloadCheck.Yaml

open PayloadCheck.Text

/-- The faults of a text that is marked as a value, other than those of its content. -/
inductive Misfit : Fault → Prop
  /-- A number without a first character. -/
  | number : Misfit (.noPart "string index out of range")
  /-- A truth value of no known word. -/
  | word {s : String} (unknown : Tag.boolWords.lookup (lower s) = none) :
      Misfit (.noKey (quoted (lower s)))
  /-- A stamp of no known form. -/
  | stamp : Misfit (.noProperty "'NoneType' object has no attribute 'groupdict'")
  /-- The code of a character that is too large. -/
  | code : Misfit (.outOfRange "Python int too large to convert to C int")

/-- What is no fault of the form of a document is one of a text that is marked as a value. -/
def YamlFault.OfMark : YamlFault → Prop
  | .malformed _ => True
  | .content outside => IsBadValue outside.fault ∨ Misfit outside.fault

theorem raises_malformed {α : Type} (what : String) :
    Raises YamlFault.OfMark (malformed what : Step α) :=
  .error trivial

/-! ### Tokens -/

theorem raises_skipLineEnd (cs : List Char) : Raises YamlFault.OfMark (skipLineEnd cs) := by
  unfold skipLineEnd
  dsimp only
  split
  · exact .ok _
  · exact .ite (.ok _) (raises_malformed _)

theorem raises_foldedBreaks (cs : List Char) : Raises YamlFault.OfMark (foldedBreaks cs) := by
  fun_induction foldedBreaks cs with
  | case1 => exact raises_malformed _
  | case2 => exact .ok _
  | case3 cs hboundary c rest h hbreak ih => exact ih.bind fun _ => .ok _
  | case4 => exact .ok _

theorem raises_charOfCode (n : Nat) : Raises YamlFault.OfMark (charOfCode n) :=
  .ite (.ok _) (.ite (.error (Or.inl ⟨_, rfl⟩)) (.error (Or.inr .code)))

theorem raises_readCode (digits : Nat) (cs : List Char) :
    Raises YamlFault.OfMark (readCode digits cs) :=
  .ite (raises_charOfCode _) (raises_malformed _)

theorem raises_readQuoted (double : Bool) (steps : Nat) (cs : List Char) :
    Raises YamlFault.OfMark (readQuoted double steps cs) := by
  induction steps generalizing cs with
  | zero => exact raises_malformed _
  | succ steps ih =>
    have hnext : ∀ read more, Raises YamlFault.OfMark (do
        return prepend read (← readQuoted double steps more)) :=
      fun read more => (ih more).bind fun _ => .ok _
    cases cs with
    | nil => exact raises_malformed _
    | cons c rest =>
      unfold readQuoted
      refine .ite ?blank (.ite ((raises_foldedBreaks _).bind fun _ => hnext _ _)
        (.ite ?quote (.ite (.ok _) (.ite ?escape (hnext _ _)))))
      case blank =>
        split
        · exact raises_malformed _
        · exact .ite ((raises_foldedBreaks _).bind fun _ => hnext _ _) (hnext _ _)
      case quote =>
        split
        · exact hnext _ _
        · exact .ok _
      case escape =>
        split
        · exact raises_malformed _
        · split
          · exact hnext _ _
          · exact (raises_readCode _ _).bind fun _ => hnext _ _
          · exact .ite ((raises_foldedBreaks _).bind fun _ => hnext _ _) (raises_malformed _)

theorem raises_readAnchorName (cs : List Char) : Raises YamlFault.OfMark (readAnchorName cs) :=
  .ite (raises_malformed _) (.ok _)

theorem raises_escapedBytes (cs : List Char) : Raises YamlFault.OfMark (escapedBytes cs) := by
  fun_induction escapedBytes cs with
  | case1 a b rest h ih => exact ih.bind fun _ => .ok _
  | case2 => exact raises_malformed _
  | case3 => exact raises_malformed _
  | case4 => exact .ok _

theorem raises_tagChars (steps : Nat) (cs : List Char) :
    Raises YamlFault.OfMark (tagChars steps cs) := by
  induction steps generalizing cs with
  | zero =>
    unfold tagChars
    exact .ok _
  | succ steps ih =>
    cases cs with
    | nil => exact .ok _
    | cons c rest =>
      unfold tagChars
      refine .ite ((raises_escapedBytes _).bind fun _ => ?_)
        (.ite ((ih _).bind fun _ => .ok _) (.ok _))
      dsimp only
      split
      · exact (ih _).bind fun _ => .ok _
      · exact raises_malformed _

theorem raises_readTagBody (cs : List Char) : Raises YamlFault.OfMark (readTagBody cs) :=
  (raises_tagChars _ _).bind fun _ => .ite (raises_malformed _) (.ok _)

theorem raises_readHandle (cs : List Char) : Raises YamlFault.OfMark (readHandle cs) := by
  unfold readHandle
  split
  · dsimp only
    split
    · exact .ok _
    · exact .ite (.ok _) (raises_malformed _)
  · exact raises_malformed _

theorem raises_readTag (cs : List Char) : Raises YamlFault.OfMark (readTag cs) := by
  have hend : ∀ (t : Token) (rest : List Char), Raises YamlFault.OfMark (
      if isSpaceOrEnd rest.head? then (return (t, rest) : Step (Token × List Char))
      else malformed "a tag ends before a space") :=
    fun _ _ => .ite (.ok _) (raises_malformed _)
  unfold readTag
  dsimp only
  split
  · refine (raises_readTagBody _).bind fun _ => ?_
    split
    · exact hend _ _
    · exact (raises_malformed _).bind fun _ => hend _ _
  · exact .ite (hend _ _) (.ite
      ((raises_readHandle _).bind fun _ => (raises_readTagBody _).bind fun _ => hend _ _)
      ((raises_readTagBody _).bind fun _ => hend _ _))

theorem raises_readNumber (cs : List Char) : Raises YamlFault.OfMark (readNumber cs) :=
  .ite (raises_malformed _) (.ok _)

theorem raises_readVersion (cs : List Char) : Raises YamlFault.OfMark (readVersion cs) := by
  refine (raises_readNumber _).bind fun _ => ?_
  dsimp only
  split
  · exact (raises_readNumber _).bind fun _ => .ite (.ok _) (raises_malformed _)
  · exact raises_malformed _

theorem raises_readHandleMeaning (cs : List Char) :
    Raises YamlFault.OfMark (readHandleMeaning cs) :=
  (raises_readHandle _).bind fun _ => .ite (raises_malformed _)
    ((raises_readTagBody _).bind fun _ => .ite (.ok _) (raises_malformed _))

theorem raises_readDirective (cs : List Char) : Raises YamlFault.OfMark (readDirective cs) := by
  have hend : ∀ (d : Directive) rest, Raises YamlFault.OfMark (do
      return (Token.directive d, ← skipLineEnd rest)) :=
    fun _ _ => (raises_skipLineEnd _).bind fun _ => .ok _
  exact .ite (raises_malformed _) (.ite ((raises_readVersion _).bind fun _ => hend _ _)
    (.ite ((raises_readHandleMeaning _).bind fun _ => hend _ _) (hend _ _)))

theorem raises_readIndent? (c : Char) : Raises YamlFault.OfMark (readIndent? c) :=
  .ite (raises_malformed _) (.ite (.ok _) (.ok _))

theorem raises_readHeader (cs : List Char) : Raises YamlFault.OfMark (readHeader cs) := by
  unfold readHeader
  split
  · exact .ok _
  · split
    · split
      · exact .ok _
      · refine (raises_readIndent? _).bind fun _ => ?_
        split <;> exact .ok _
    · refine (raises_readIndent? _).bind fun _ => ?_
      split
      · exact .ok _
      · split
        · exact .ok _
        · split <;> exact .ok _

theorem raises_readBlock (folds : Bool) (least : Nat) (cs : List Char) :
    Raises YamlFault.OfMark (readBlock folds least cs) :=
  (raises_readHeader _).bind fun _ => .ite (raises_malformed _)
    ((raises_skipLineEnd _).bind fun _ => .ok _)

namespace Scan

theorem raises_dropStale (s : Scan) : Raises YamlFault.OfMark s.dropStale :=
  .ite (raises_malformed _) (.ok _)

theorem raises_dropCandidate (s : Scan) : Raises YamlFault.OfMark s.dropCandidate := by
  unfold dropCandidate
  split
  · exact .ite (raises_malformed _) (.ok _)
  · exact .ok _

theorem raises_noteCandidate (s : Scan) : Raises YamlFault.OfMark s.noteCandidate :=
  .ite ((raises_dropCandidate _).bind fun _ => .ok _) (.ok _)

theorem raises_boundary (s : Scan) (t : Token) (rest : List Char) :
    Raises YamlFault.OfMark (s.boundary t rest) :=
  (raises_dropCandidate _).bind fun _ => .ok _

theorem raises_openBracket (s : Scan) (t : Token) (rest : List Char) :
    Raises YamlFault.OfMark (s.openBracket t rest) :=
  (raises_noteCandidate _).bind fun _ => .ok _

theorem raises_closeBracket (s : Scan) (t : Token) (rest : List Char) :
    Raises YamlFault.OfMark (s.closeBracket t rest) :=
  (raises_dropCandidate _).bind fun _ => .ite (raises_malformed _) (.ok _)

theorem raises_comma (s : Scan) (rest : List Char) : Raises YamlFault.OfMark (s.comma rest) :=
  (raises_dropCandidate _).bind fun _ => .ok _

theorem raises_blockSign (s : Scan) (begin t : Token) (keyAllowed : Bool) (rest : List Char) :
    Raises YamlFault.OfMark (s.blockSign begin t keyAllowed rest) := by
  have hend : ∀ s : Scan, Raises YamlFault.OfMark (do
      let s ← s.dropCandidate
      return ({ s with keyAllowed }.push [t]).goTo rest) :=
    fun s => (raises_dropCandidate s).bind fun _ => .ok _
  unfold blockSign
  refine .ite (hend _) (.ite ((raises_malformed _).bind fun _ => hend _) ?_)
  split <;> exact hend _

theorem raises_colon (s : Scan) (rest : List Char) : Raises YamlFault.OfMark (s.colon rest) := by
  have hend : ∀ s : Scan, Raises YamlFault.OfMark (do
      let s ← { s with keyAllowed := !s.inBrackets }.dropCandidate
      return (s.push [.value]).goTo rest) :=
    fun s => (raises_dropCandidate _).bind fun _ => .ok _
  unfold colon
  split
  · exact .ok _
  · refine .ite (hend _) (.ite ((raises_malformed _).bind fun _ => hend _) ?_)
    split <;> exact hend _

theorem raises_word (s : Scan) {read : Step (Token × List Char)}
    (h : Raises YamlFault.OfMark read) : Raises YamlFault.OfMark (s.word read) :=
  (raises_noteCandidate _).bind fun _ => h.bind fun _ => .ok _

theorem raises_block (s : Scan) (folds : Bool) (rest : List Char) :
    Raises YamlFault.OfMark (s.block folds rest) :=
  (raises_dropCandidate _).bind fun _ => (raises_readBlock _ _ _).bind fun _ => .ok _

theorem raises_plain (s : Scan) : Raises YamlFault.OfMark s.plain :=
  (raises_noteCandidate _).bind fun _ => .ok _

theorem raises_token (s : Scan) (c : Char) (rest : List Char) :
    Raises YamlFault.OfMark (s.token c rest) := by
  unfold token
  dsimp only
  refine .ite ?directive (.ite (raises_boundary _ _ _) (.ite (raises_boundary _ _ _)
    (.ite (raises_openBracket _ _ _) (.ite (raises_openBracket _ _ _)
    (.ite (raises_closeBracket _ _ _) (.ite (raises_closeBracket _ _ _)
    (.ite (raises_comma _ _) (.ite (raises_blockSign _ _ _ _ _) (.ite (raises_blockSign _ _ _ _ _)
    (.ite (raises_colon _ _) (.ite ?reference (.ite ?label (.ite (raises_word _ (raises_readTag _))
    (.ite (raises_block _ _ _) (.ite (raises_block _ _ _) (.ite ?quoted
    (.ite (raises_plain _) (raises_malformed _))))))))))))))))))
  case reference | label => exact raises_word _ ((raises_readAnchorName _).bind fun _ => .ok _)
  case directive =>
    exact (raises_dropCandidate _).bind fun _ => (raises_readDirective _).bind fun _ => .ok _
  case quoted => exact raises_word _ ((raises_readQuoted _ _ _).bind fun _ => .ok _)

theorem raises_skip (s : Scan) : Raises YamlFault.OfMark s.skip :=
  (raises_dropStale _).bind fun _ => .ok _

theorem raises_run (steps : Nat) (s : Scan) : Raises YamlFault.OfMark (run steps s) := by
  induction steps generalizing s with
  | zero => exact .ok _
  | succ steps ih =>
    refine (raises_skip s).bind fun next => ?_
    split
    · exact (raises_dropCandidate _).bind fun _ => .ok _
    · exact (raises_token _ _ _).bind fun _ => ih _

end Scan

theorem raises_readTokens (cs : List Char) : Raises YamlFault.OfMark (readTokens cs) :=
  .ite (Scan.raises_run _ _) (raises_malformed _)

/-! ### Nodes -/

namespace Reader

/-- A reader raises no other fault, whatever is pending. -/
def RaisesMarks {α : Type} (reader : Reader α) : Prop :=
  ∀ pending, Raises YamlFault.OfMark (reader pending)

section

variable {α β : Type} {reader other : Reader α}

theorem RaisesMarks.bind {next : α → Reader β} (h : reader.RaisesMarks)
    (hnext : ∀ a, (next a).RaisesMarks) : (reader >>= next).RaisesMarks :=
  fun pending => (h pending).bind fun (a, left) => hnext a left

theorem RaisesMarks.pure (a : α) : (Pure.pure a : Reader α).RaisesMarks := fun _ => .ok _

theorem RaisesMarks.ite {c : Prop} [Decidable c] (h : reader.RaisesMarks)
    (hother : other.RaisesMarks) : (if c then reader else other).RaisesMarks := by
  split
  · exact h
  · exact hother

end

theorem marks_refuse {α : Type} (what : String) : (refuse what : Reader α).RaisesMarks :=
  fun _ => raises_malformed _

theorem marks_peek : peek.RaisesMarks := fun _ => .ok _

theorem marks_skip : skip.RaisesMarks := fun _ => .ok _

theorem marks_sees (ts : List Token) : (sees ts).RaisesMarks := fun _ => .ok _

theorem marks_accepts (t : Token) : (accepts t).RaisesMarks :=
  marks_peek.bind fun _ => .ite (marks_skip.bind fun _ => .pure _) (.pure _)

theorem marks_get : (get : Reader Pending).RaisesMarks := fun _ => .ok _

theorem marks_modify (f : Pending → Pending) : (modify f : Reader Unit).RaisesMarks :=
  fun _ => .ok _

theorem marks_fullName (handle : Option String) (suffix : String) :
    (fullName handle suffix).RaisesMarks := by
  unfold fullName
  split
  · exact .pure _
  · refine marks_get.bind fun _ => ?_
    split
    · exact .pure _
    · exact marks_refuse _

theorem marks_properties : properties.RaisesMarks := by
  refine marks_peek.bind fun _ => ?_
  split
  · refine marks_skip.bind fun _ => marks_peek.bind fun _ => ?_
    split
    · exact marks_skip.bind fun _ => (marks_fullName _ _).bind fun _ => .pure _
    · exact .pure _
  · refine marks_skip.bind fun _ => marks_peek.bind fun _ => ?_
    split
    · exact marks_skip.bind fun _ => (marks_fullName _ _).bind fun _ => .pure _
    · exact (marks_fullName _ _).bind fun _ => .pure _
  · exact .pure _

theorem marks_named (name : String) : (named name).RaisesMarks := by
  refine marks_get.bind fun _ => ?_
  split
  · exact .pure _
  · exact marks_refuse _
  · exact marks_refuse _

theorem marks_announce (anchor : Option String) : (announce anchor).RaisesMarks := by
  unfold announce
  split
  · exact .pure _
  · exact marks_get.bind fun _ => .ite (marks_refuse _) (marks_modify _)

theorem marks_remember (anchor : Option String) (node : Node) :
    (remember anchor node).RaisesMarks := by
  unfold remember
  split
  · exact .pure _
  · exact (marks_modify _).bind fun _ => .pure _

/-- The readers of nodes, items and entries raise no other fault where so many steps are left. -/
structure ReadersMark (steps : Nat) : Prop where
  node : ∀ inBlock unindented, (node inBlock unindented steps).RaisesMarks
  blockItems : (blockItems steps).RaisesMarks
  unindentedItems : (unindentedItems steps).RaisesMarks
  blockEntries : (blockEntries steps).RaisesMarks
  bracketItems : ∀ first, (bracketItems first steps).RaisesMarks
  bracketEntries : ∀ first, (bracketEntries first steps).RaisesMarks

section

variable {steps : Nat}

theorem marks_node_succ (h : ReadersMark steps) (inBlock unindented : Bool) :
    (node inBlock unindented (steps + 1)).RaisesMarks := by
  unfold node
  refine marks_peek.bind fun _ => ?_
  split
  · exact marks_skip.bind fun _ => marks_named _
  · refine marks_properties.bind fun _ => (marks_announce _).bind fun _ =>
      marks_peek.bind fun _ => ?_
    split
    · exact marks_skip.bind fun _ => marks_remember _ _
    · exact marks_skip.bind fun _ => (h.bracketItems _).bind fun _ => marks_remember _ _
    · exact marks_skip.bind fun _ => (h.bracketEntries _).bind fun _ => marks_remember _ _
    · exact .ite (h.unindentedItems.bind fun _ => marks_remember _ _)
        (.ite (marks_skip.bind fun _ => h.blockItems.bind fun _ => marks_remember _ _)
        (.ite (marks_skip.bind fun _ => h.blockEntries.bind fun _ => marks_remember _ _)
        (.ite (marks_remember _ _) (marks_refuse _))))

/-- A node that may be missing. -/
theorem marks_nodeUnless (h : ReadersMark steps) (ts : List Token) (inBlock unindented : Bool)
    {α : Type} {next : Node → Reader α} (hnext : ∀ n, (next n).RaisesMarks) :
    (do
      let n ← if ← sees ts then Pure.pure Node.empty else node inBlock unindented steps
      next n).RaisesMarks :=
  (marks_sees ts).bind fun _ => .ite (hnext _) ((h.node _ _).bind fun _ => hnext _)

theorem marks_blockItems_succ (h : ReadersMark steps) : (blockItems (steps + 1)).RaisesMarks := by
  unfold blockItems
  refine (marks_accepts _).bind fun _ => .ite ?_ ((marks_accepts _).bind fun _ =>
    .ite (.pure _) (marks_refuse _))
  exact marks_nodeUnless h _ _ _ fun _ => h.blockItems.bind fun _ => .pure _

theorem marks_unindentedItems_succ (h : ReadersMark steps) :
    (unindentedItems (steps + 1)).RaisesMarks := by
  unfold unindentedItems
  refine (marks_accepts _).bind fun _ => .ite ?_ (.pure _)
  exact marks_nodeUnless h _ _ _ fun _ => h.unindentedItems.bind fun _ => .pure _

/-- A key with the value after it, which may be missing. -/
theorem marks_value (h : ReadersMark steps) (ts : List Token) (inBlock unindented : Bool)
    {α : Type} {next : Node → Reader α} (hnext : ∀ n, (next n).RaisesMarks) :
    (do
      let v ← if ← accepts .value then
          if ← sees ts then Pure.pure Node.empty else node inBlock unindented steps
        else Pure.pure Node.empty
      next v).RaisesMarks :=
  (marks_accepts _).bind fun _ => .ite (marks_nodeUnless h _ _ _ hnext) (hnext _)

theorem marks_blockEntries_succ (h : ReadersMark steps) :
    (blockEntries (steps + 1)).RaisesMarks := by
  unfold blockEntries
  refine (marks_accepts _).bind fun _ => .ite ?_ ((marks_accepts _).bind fun _ =>
    .ite (.pure _) (marks_refuse _))
  exact marks_nodeUnless h _ _ _ fun _ => marks_value h _ _ _ fun _ =>
    h.blockEntries.bind fun _ => .pure _

/-- A comma, unless it is the first item or entry that follows. -/
theorem marks_comma (first : Bool) (what : String) {α : Type} {rest : Reader α}
    (h : rest.RaisesMarks) :
    (do
      if !first then
        if !(← accepts .comma) then refuse what
      rest).RaisesMarks :=
  .ite ((marks_accepts _).bind fun _ => .ite ((marks_refuse _).bind fun _ => h) h) h

theorem marks_bracketItems_succ (h : ReadersMark steps) (first : Bool) :
    (bracketItems first (steps + 1)).RaisesMarks := by
  unfold bracketItems
  refine (marks_accepts _).bind fun _ => .ite (.pure _) (marks_comma first _ ?_)
  refine (marks_accepts _).bind fun _ => .ite ?pair ((marks_accepts _).bind fun _ => .ite (.pure _)
    ((h.node _ _).bind fun _ => (h.bracketItems _).bind fun _ => .pure _))
  case pair =>
    exact marks_nodeUnless h _ _ _ fun _ => marks_value h _ _ _ fun _ =>
      (h.bracketItems _).bind fun _ => .pure _

theorem marks_bracketEntries_succ (h : ReadersMark steps) (first : Bool) :
    (bracketEntries first (steps + 1)).RaisesMarks := by
  unfold bracketEntries
  refine (marks_accepts _).bind fun _ => .ite (.pure _) (marks_comma first _ ?_)
  refine (marks_accepts _).bind fun _ => .ite ?pair ((marks_accepts _).bind fun _ => .ite (.pure _)
    ((h.node _ _).bind fun _ => (h.bracketEntries _).bind fun _ => .pure _))
  case pair =>
    exact marks_nodeUnless h _ _ _ fun _ => marks_value h _ _ _ fun _ =>
      (h.bracketEntries _).bind fun _ => .pure _

end

theorem readersMark : ∀ steps, ReadersMark steps
  | 0 => by
    constructor <;> intros <;> exact marks_refuse _
  | steps + 1 =>
    have h := readersMark steps
    { node := marks_node_succ h
      blockItems := marks_blockItems_succ h
      unindentedItems := marks_unindentedItems_succ h
      blockEntries := marks_blockEntries_succ h
      bracketItems := marks_bracketItems_succ h
      bracketEntries := marks_bracketEntries_succ h }

theorem raises_directives (versionSeen : Bool) (handles : List (String × String))
    (ts : List Token) : Raises YamlFault.OfMark (directives versionSeen handles ts) := by
  fun_induction directives versionSeen handles ts with
  | case1 => exact raises_malformed _
  | case2 => exact raises_malformed _
  | case3 => assumption
  | case4 => exact raises_malformed _
  | case5 => assumption
  | case6 => assumption
  | case7 => exact .ok _

theorem marks_beginning : beginning.RaisesMarks := by
  intro pending
  unfold beginning
  split
  · exact .ok _
  · refine (raises_directives _ _ _).bind fun _ => ?_
    dsimp only
    split
    · exact .ok _
    · exact raises_malformed _
  · exact .ok _

theorem marks_document (steps : Nat) : (document steps).RaisesMarks := by
  have hend : ∀ root : Node, (do
      modify fun s => { s with tokens := s.tokens.dropWhile (· == .documentEnd) }
      if (← peek).isSome then refuse "there is more than one document" else return root :
        Reader Node).RaisesMarks := fun root =>
    (marks_modify _).bind fun _ => marks_peek.bind fun _ => .ite (marks_refuse _) (.pure _)
  refine marks_peek.bind fun _ => (marks_sees _).bind fun _ => marks_beginning.bind fun _ =>
    marks_peek.bind fun _ => (marks_sees _).bind fun _ => .ite (hend _) ?_
  exact ((readersMark steps).node _ _).bind fun _ => hend _

end Reader

theorem raises_ofTokens (tokens : List Token) : Raises YamlFault.OfMark (Node.ofTokens tokens) :=
  .ite (.ok _) ((Reader.marks_document _ _).bind fun _ => .ok _)

/-! ### Values -/

theorem raises_readPart (cs : List Char) : Raises YamlFault.OfMark (readPart cs) := by
  unfold readPart
  split
  · exact .ok _
  · next h => exact .error (Or.inl (Value.raises_integerOf _ _ h))

theorem raises_readToBase (base : Nat) (cs : List Char) :
    Raises YamlFault.OfMark (readToBase base cs) := by
  have hbad : Raises YamlFault.OfMark (readToBase.bad base cs) := .error (Or.inl ⟨_, rfl⟩)
  unfold readToBase
  split
  · exact .ite (.ok _) hbad
  · exact hbad

theorem raises_unsignedInt (cs : List Char) : Raises YamlFault.OfMark (unsignedInt cs) := by
  unfold unsignedInt
  split
  · exact .ok _
  · exact raises_readToBase _ _
  · exact raises_readToBase _ _
  · exact raises_readToBase _ _
  · exact (Raises.mapM raises_readPart _).bind fun _ => .ok _

theorem raises_readInt (s : String) : Raises YamlFault.OfMark (readInt s) := by
  unfold readInt
  dsimp only
  exact .ite (.error (Or.inr .number)) ((raises_unsignedInt _).bind fun _ => .ok _)

theorem raises_readDouble (s : String) : Raises YamlFault.OfMark (readDouble s) := by
  unfold readDouble
  split
  · exact .ok _
  · exact .error (Or.inl ⟨_, rfl⟩)

theorem raises_readFloat (s : String) : Raises YamlFault.OfMark (readFloat s) := by
  unfold readFloat
  dsimp only
  exact .ite (.error (Or.inr .number)) (.ite (.ok _) (.ite (.ok _)
    ((Raises.mapM (fun _ => raises_readDouble _) _).bind fun _ => .ok _)))

theorem raises_readBool (s : String) : Raises YamlFault.OfMark (readBool s) := by
  unfold readBool
  split
  · exact .ok _
  · next hunknown => exact .error (Or.inr (.word hunknown))

theorem raises_badValue {α : Type} (detail : String) :
    Raises YamlFault.OfMark (badValue detail : Step α) :=
  .error (Or.inl ⟨_, rfl⟩)

theorem raises_date (s : Stamp) : Raises YamlFault.OfMark s.date := by
  unfold Stamp.date
  exact .ite (raises_badValue _) (.ite (raises_badValue _) (.ite (.ok _) (raises_badValue _)))

theorem raises_moment (s : Stamp) (c : Clock) : Raises YamlFault.OfMark (s.moment c) := by
  unfold Stamp.moment
  dsimp only
  split
  · exact raises_badValue _
  · exact (raises_date s).bind fun _ => .ite (raises_badValue _) (.ite (raises_badValue _)
      (.ite (raises_badValue _) (.ok _)))

theorem raises_readStamp (s : String) : Raises YamlFault.OfMark (readStamp s) := by
  unfold readStamp
  split
  · exact .error (Or.inr .stamp)
  · split
    · exact (raises_date _).map
    · exact (raises_moment _ _).map

theorem raises_readBinary (s : String) : Raises YamlFault.OfMark (readBinary s) := by
  unfold readBinary
  refine .ite ?_ (raises_malformed _)
  split
  · exact .ok _
  · exact raises_malformed _

theorem raises_scalarValue (tag : Tag) (s : String) :
    Raises YamlFault.OfMark (scalarValue tag s) := by
  unfold scalarValue
  split
  · exact .ok _
  · exact (raises_readBool s).map
  · exact (raises_readInt s).map
  · exact (raises_readFloat s).map
  · exact .ok _
  · exact raises_readBinary s
  · exact raises_readStamp s
  · exact raises_malformed _

namespace Node

mutual

theorem raises_value : ∀ n : Node, Raises YamlFault.OfMark n.value
  | scalar tag s => by
    unfold value
    exact raises_scalarValue tag s
  | list tag items => by
    unfold value
    split
    · exact (raises_values items).bind fun _ => .ok _
    · exact (raises_pairs items).bind fun _ => .ok _
    · exact (raises_pairs items).bind fun _ => .ok _
    · exact raises_malformed _
  | map tag entries => by
    unfold value
    split
    · exact (raises_entryValues entries).bind fun _ => .ok _
    · exact (raises_entryValues entries).bind fun _ => .ok _
    · split
      · exact raises_scalarValue _ _
      · exact raises_malformed _

theorem raises_values : ∀ items : List Node, Raises YamlFault.OfMark (values items)
  | [] => by
    unfold values
    exact .ok _
  | n :: rest => by
    unfold values
    exact (raises_value n).bind fun _ => (raises_values rest).bind fun _ => .ok _

theorem raises_pairs : ∀ items : List Node, Raises YamlFault.OfMark (pairs items)
  | [] => by
    unfold pairs
    exact .ok _
  | .map _ [(k, v)] :: rest => by
    unfold pairs
    exact (raises_value k).bind fun _ => (raises_value v).bind fun _ =>
      (raises_pairs rest).bind fun _ => .ok _
  | .scalar .. :: _ | .list .. :: _ | .map _ [] :: _ | .map _ (_ :: _ :: _) :: _ => by
    unfold pairs
    exact raises_malformed _

theorem raises_entryValues : ∀ entries : List (Node × Node),
    Raises YamlFault.OfMark (entryValues entries)
  | [] => by
    unfold entryValues
    exact .ok _
  | (k, v) :: rest => by
    have hown : ∀ key : Value, Raises YamlFault.OfMark (
        if key.keyless?.isSome then malformed "a key cannot be a list or a map" else do
        let w ← value v
        let (merged, own) ← entryValues rest
        return (merged, (key, w) :: own)) := fun _ =>
      .ite (raises_malformed _) ((raises_value v).bind fun _ =>
        (raises_entryValues rest).bind fun _ => .ok _)
    unfold entryValues
    refine .ite ((raises_mergedEntries v).bind fun _ => (raises_entryValues rest).bind fun _ =>
      .ok _) (.ite ?_ ((raises_value k).bind fun _ => hown _))
    split
    · exact Raises.bind (.ok _) fun _ => hown _
    · exact (raises_malformed _).bind fun _ => hown _

theorem raises_mergedEntries : ∀ n : Node, Raises YamlFault.OfMark (mergedEntries n)
  | scalar _ _ => by
    unfold mergedEntries
    exact raises_malformed _
  | list _ items => by
    unfold mergedEntries
    exact raises_mergedFromAll items
  | map _ entries => by
    unfold mergedEntries
    exact (raises_entryValues entries).bind fun _ => .ok _

theorem raises_mergedFromAll : ∀ items : List Node, Raises YamlFault.OfMark (mergedFromAll items)
  | [] => by
    unfold mergedFromAll
    exact .ok _
  | .map _ entries :: rest => by
    unfold mergedFromAll
    exact (raises_entryValues entries).bind fun _ => (raises_mergedFromAll rest).bind fun _ => .ok _
  | .scalar .. :: _ | .list .. :: _ => by
    unfold mergedFromAll
    exact raises_malformed _

end

end Node

/-- A text that is marked as a value keeps a document from being read with a fault of its content,
    or because it does not fit its mark at all. -/
theorem misfit_of_read {s : String} {outside : OutsideFault}
    (h : read s = .error (.content outside)) : IsBadValue outside.fault ∨ Misfit outside.fault := by
  have hread : Raises YamlFault.OfMark (read s) := by
    refine (raises_readTokens _).bind fun _ => (raises_ofTokens _).bind fun _ => ?_
    split
    · exact .ok _
    · exact Node.raises_value _
  exact hread _ h

/-- A document is read as the value of the node that its tokens make. -/
theorem read_of_tokens {s : String} (tokens : List Token) (root : Node)
    (htokens : readTokens s.toList = .ok tokens) (hroot : Node.ofTokens tokens = .ok (some root)) :
    read s = root.value := by
  simp only [read, htokens, hroot, bind, Except.bind]

end PayloadCheck.Yaml
