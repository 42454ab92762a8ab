import PayloadCheck.Pattern.Reading

/-!
# Reading a pattern

A pattern is alternatives, an alternative is a sequence, and a sequence holds characters, sets,
anchors, groups and repetitions of what stands before them. The depth of the recursion is limited
by a number that is computed from the length of the text and is never reached.
-/

namespace PayloadCheck.Pattern

open PayloadCheck.Text PayloadCheck.Number Step

/-- What a bracket opens. -/
inductive Opening where
  | capture (name : Option String)
  | plain (change : Change)
  | atomic
  | look (behind negated : Bool)
  | conditional
  /-- Nothing is opened; a pattern may stand here. -/
  | closed (p : Option Pattern)
  /-- Options of the whole pattern. -/
  | options

/-- Extensions that begin with `?P`. -/
def readNamed : Step Opening := do
  if ← takeIf '<' then
    let name ← takeName '>' "group name"
    checkName name
    return .capture (some (String.ofList name))
  if ← takeIf '=' then
    let name ← takeName ')' "group name"
    checkName name
    return .closed (some (← reference (← numberOfName name) (name.length + 1)))
  match ← take with
  | none => refuse "unexpected end of pattern"
  | some t => refuse ("unknown extension ?P" ++ t.text) (t.length + 2)

/-- Extensions that begin with `?<`. -/
def readBehind : Step Opening := do
  match ← take with
  | none => refuse "unexpected end of pattern"
  | some (.plain '=') => return .look true false
  | some (.plain '!') => return .look true true
  | some t => refuse ("unknown extension ?<" ++ t.text) (t.length + 2)

/-- A comment; the bracket stands at `start`. -/
def skipComment (start : Nat) : Step Opening := do
  if ← skipPast ')' ((← remaining) + 1) then return .closed none
  refuse "missing ), unterminated comment" ((← place) - start)

/-- What the bracket at `start` opens. -/
def readOpening (start : Nat) : Step Opening := do
  if !(← takeIf '?') then return .capture none
  match ← take with
  | none => refuse "unexpected end of pattern"
  | some (.plain 'P') => readNamed
  | some (.plain ':') => return .plain {}
  | some (.plain '#') => skipComment start
  | some (.plain '=') => return .look false false
  | some (.plain '!') => return .look false true
  | some (.plain '<') => readBehind
  | some (.plain '(') => return .conditional
  | some (.plain '>') => return .atomic
  | some t =>
    match if t = .plain '-' then some '-' else optionOf? t with
    | some c => match ← readOptions c with
      | some change => return .plain change
      | none => return .options
    | none => refuse ("unknown extension ?" ++ t.text) (t.length + 1)

/-- Takes the bracket that closes the one at `start`. -/
def close (start : Nat) : Step Unit := do
  if !(← takeIf ')') then refuse "missing ), unterminated subpattern" ((← place) - start)

/-- White space, which means nothing where filler is allowed. -/
def isFiller (t : Token) : Bool := [' ', '\t', '\n', '\r', '\x0b', '\x0c'].any fun c => t = .plain c

/-- Signs that repeat what stands before them. -/
def isRepeatSign (c : Char) : Bool := c == '*' || c == '+' || c == '?' || c == '\x7b'

/-- Repeats the last of the patterns read so far, which are given last first. The repetition sign
stands at `sign`. -/
def repeatLast (sign : Nat) (least : Nat) (most : Option Nat) (done : List Pattern) :
    Step (List Pattern) := do
  let back := (← place) - sign
  match done with
  | [] => refuse "nothing to repeat" back
  | last :: before =>
    if last.isAnchor then refuse "nothing to repeat" back
    if last.isRepeated then refuse "multiple repeat" back
    return .repeated (← readManner) least most last :: before

/-- The pattern of one token that needs nothing of what stands before it, brackets excepted. -/
def readSingle : Token → Step Pattern
  | .escaped c => do
    match ← readEscape c with
    | .one code => return .char (.one code)
    | .cls k negated => return .char (.among false [.cls k negated])
    | .anchor a => return .anchor a
    | .again p => return p
  | .plain '[' => readSet
  | .plain '.' => return .char .any
  | .plain '^' => return .anchor .lineStart
  | .plain '$' => return .anchor .lineEnd
  | .plain c => return .char (.one c.toNat)

mutual

/-- Alternatives, up to a closing bracket or the end. Where they stand for the whole pattern,
`outermost` holds, and options may be switched on at their beginning. -/
def readAlternatives (fuel : Nat) (outermost verbose : Bool) (done : List Pattern) :
    Step Pattern :=
  match fuel with
  | 0 => return .alternatives done
  | fuel + 1 => do
    let p ← readSequence fuel (outermost && done.isEmpty) verbose []
    let done := done ++ [p]
    if ← takeIf '|' then
      let switched := (← get).switched.contains 'x'
      readAlternatives fuel outermost (verbose || (outermost && switched)) done
    else return .alternatives done

/-- A sequence, up to a bar, a closing bracket or the end; `done` was read already, last first. -/
def readSequence (fuel : Nat) (first verbose : Bool) (done : List Pattern) : Step Pattern :=
  match fuel with
  | 0 => return .sequence done.reverse
  | fuel + 1 => do
    match ← peek with
    | none | some (.plain '|') | some (.plain ')') => return .sequence done.reverse
    | some t => do
      let start ← place
      let _ ← take
      if verbose && isFiller t then readSequence fuel first verbose done
      else if verbose && t = .plain '#' then
        let _ ← skipPast '\n' ((← remaining) + 1)
        readSequence fuel first verbose done
      else match t with
        | .plain '(' => do
          let (p, verbose) ← readGroup fuel start (first && done.isEmpty) verbose
          readSequence fuel first verbose (p.toList ++ done)
        | .plain c => do
          if isRepeatSign c then
            match ← readRounds c with
            | none => readSequence fuel first verbose (.char (.one c.toNat) :: done)
            | some (least, most) =>
              readSequence fuel first verbose (← repeatLast start least most done)
          else readSequence fuel first verbose ((← readSingle t) :: done)
        | _ => do readSequence fuel first verbose ((← readSingle t) :: done)

/-- What the bracket at `start` opens, up to its end, and whether the pattern goes on with filler
allowed. -/
def readGroup (fuel : Nat) (start : Nat) (first verbose : Bool) :
    Step (Option Pattern × Bool) :=
  match fuel with
  | 0 => return (none, verbose)
  | fuel + 1 => do
    match ← readOpening start with
    | .closed p => return (p, verbose)
    | .options =>
      if !first then
        refuse "global flags not at the start of the expression" ((← place) - start)
      let switched := (← get).switched.contains 'x'
      return (none, verbose || switched)
    | .capture name => do
      let number ← openGroup name
      let body ← readAlternatives fuel false verbose []
      close start
      closeGroup number body
      return (some (.group (some number) {} body), verbose)
    | .plain change => do
      let inner := (verbose || change.on.contains 'x') && !change.off.contains 'x'
      let body ← readAlternatives fuel false inner []
      close start
      return (some (.group none change body), verbose)
    | .atomic => do
      let body ← readAlternatives fuel false verbose []
      close start
      return (some (.atomic body), verbose)
    | .look behind negated => do
      let outer := (← get).sealedFrom
      if behind && outer.isNone then
        let count ← groupCount
        modify fun r => { r with sealedFrom := some count }
      let body ← readAlternatives fuel false verbose []
      if behind then modify fun r => { r with sealedFrom := outer }
      close start
      return (some (.look behind negated body), verbose)
    | .conditional => do
      let number ← conditionGroup
      checkSeal number
      let yes ← readSequence fuel false verbose []
      let no ← if ← takeIf '|' then
        let no ← readSequence fuel false verbose []
        if (← peek) = some (.plain '|') then
          refuse "conditional backref with more than two branches"
        pure no
      else pure .empty
      close start
      return (some (.conditional number yes no), verbose)

end

/-- Reads a whole pattern. -/
def readPattern (verbose : Bool) (length : Nat) : Step Pattern := do
  let p ← readAlternatives (4 * length + 8) true verbose []
  let r ← get
  if r.switched.contains 'a' && r.switched.contains 'u' then
    throw (.beyond .alphabets)
  if (← peek).isSome then refuse "unbalanced parenthesis"
  match r.conditions.find? fun (number, _) => r.widths.length ≤ number with
  | some (number, place) =>
    throw (.malformed s!"invalid group reference {natText number}" (some place))
  | none => return p

/-! ## Restrictions on what was read -/

/-- The greatest width that can be looked back over. -/
def widthLimit : Nat := 4294967295

/-- The restriction on patterns that look behind: their width is fixed. -/
def checkFixedWidth (p : Pattern) : Except Problem Unit :=
  let width := Width.ofPattern p
  if widthLimit < width.least then .error (.malformed "looks too much behind" none)
  else if width.most ≠ some width.least then
    .error (.malformed "look-behind requires fixed-width pattern" none)
  else .ok ()

/-- The name of a repetition that is not allowed where patterns are templates. -/
def Manner.templateName : Manner → String
  | greedy => "MAX_REPEAT"
  | lazy => "MIN_REPEAT"
  | possessive => "POSSESSIVE_REPEAT"

/-- Checks the restrictions in all parts of a pattern. -/
def check (isTemplate : Bool) : Pattern → Except Problem Unit
  | .empty | .char _ | .anchor _ | .again .. => .ok ()
  | .seq p q | .either p q | .conditional _ p q => do
    check isTemplate p
    check isTemplate q
  | .group _ _ p | .atomic p => check isTemplate p
  | .repeated manner _ _ p => do
    if isTemplate then
      throw (.malformed s!"internal: unsupported template operator {manner.templateName}" none)
    check isTemplate p
  | .look behind _ p => do
    if behind then checkFixedWidth p
    check isTemplate p

end PayloadCheck.Pattern
