import PayloadCheck.Text.Base64
import PayloadCheck.Text.Casing
import PayloadCheck.Value.Path
import PayloadCheck.Yaml.Node

/-!
# Values of nodes

The value of a node by its tag. A map may take over the entries of other maps; its own entries
count before those, and of several maps the earlier ones before the later.
-/

namespace PayloadCheck.Yaml

open PayloadCheck.Text PayloadCheck.Number PayloadCheck.Time

/-- The whole number that a part of a text stands for. -/
def readPart (cs : List Char) : Step Int :=
  match h : Value.integerOf (String.ofList cs) with
  | .ok i => .ok i
  | .error fault => .error (.content ⟨fault, Value.integerOf_fault h⟩)

/-! ## Texts as values -/

/-- The value of digits to a base, which may be up to sixteen. -/
def readToBase (base : Nat) (cs : List Char) : Step Int :=
  match cs.mapM hexValue? with
  | some ds =>
    if !ds.isEmpty && ds.all (· < base) then .ok (ds.foldl (fun n d => n * base + d) 0 : Nat)
    else bad
  | none => bad
where
  /-- The fault of digits that are none to the base. -/
  bad : Step Int :=
    .error (.content ⟨.badValue
      s!"invalid literal for int() with base {base}: {quoted (String.ofList cs)}", rfl⟩)

/-- The whole number that a text without underscores and sign stands for. -/
def unsignedInt (cs : List Char) : Step Int :=
  match cs with
  | ['0'] => .ok 0
  | '0' :: 'b' :: rest => readToBase 2 rest
  | '0' :: 'x' :: rest => readToBase 16 rest
  | '0' :: _ => readToBase 8 cs
  | _ => do
    let parts ← (pieces ':' cs).mapM readPart
    return parts.foldl (fun n d => n * 60 + d) 0

/-- The fault of a number without a first character. -/
def noFirst : YamlFault := .content ⟨.noPart "string index out of range", rfl⟩

/-- The whole number that a text stands for. -/
def readInt (s : String) : Step Int := do
  let (negative, cs) := takeSign (s.toList.filter (· != '_'))
  if cs.isEmpty then .error noFirst else
  let i ← unsignedInt cs
  return if negative then -i else i

/-- The double that a text of digits stands for. -/
def readDouble (s : String) : Step Double :=
  match double? s with
  | some d => .ok d
  | none => .error (.content ⟨.badValue s!"could not convert string to float: {quoted s}", rfl⟩)

/-- A double times a natural number, rounded. -/
def timesNat (d : Double) (n : Nat) : Double :=
  match d.toRatio? with
  | some (num, den) => .ofRatio (num < 0) (num.natAbs * n) den
  | none => d

/-- The sum of parts of sixty, the last first; `unit` is what the next one counts. -/
def sumParts (unit : Nat) (sum : Double) : List Double → Double
  | [] => sum
  | d :: rest => sumParts (unit * 60) (sum.add (timesNat d unit)) rest

/-- The double that a text stands for. -/
def readFloat (s : String) : Step Double := do
  let all := (lower (String.ofList (s.toList.filter (· != '_')))).toList
  let (negative, cs) := takeSign all
  if all.isEmpty then .error noFirst else
  if cs = ".inf".toList then return .infinite negative
  else if cs = ".nan".toList then return .nan
  else
    let parts ← (pieces ':' cs).mapM fun p => readDouble (String.ofList p)
    let d := match parts with
      | [one] => one
      | _ => sumParts 1 (.zero false) parts.reverse
    return if negative then d.neg else d

/-- The truth value that a word stands for. -/
def readBool (s : String) : Step Bool :=
  match Tag.boolWords.lookup (lower s) with
  | some b => .ok b
  | none => .error (.content ⟨.noKey (quoted (lower s)), rfl⟩)

/-- The offset of a time zone, in microseconds. -/
def Zone.ticks : Zone → Int
  | universal => 0
  | offset negative hours minutes =>
    Double.signed negative ((hours * 60 + minutes) * 60 * ticksPerSecond)

/-- The fault of a value out of its range. -/
def badValue {α : Type} (detail : String) : Step α := .error (.content ⟨.badValue detail, rfl⟩)

/-- The day of a stamp, if it exists. -/
def Stamp.date (s : Stamp) : Step Date :=
  let d : Date := ⟨s.year, s.month, s.day⟩
  if s.year = 0 then badValue "year 0 is out of range"
  else if s.month = 0 ∨ 12 < s.month then badValue "month must be in 1..12"
  else if d.isValid then .ok d
  else badValue "day is out of range for month"

/-- The moment of a stamp, if it exists. -/
def Stamp.moment (s : Stamp) (c : Clock) : Step Moment := do
  let offset := c.zone.map Zone.ticks
  match offset.filter fun o => !Moment.isOffset o with
  | some o =>
    badValue s!"offset must be a timedelta strictly between -timedelta(hours=24) and timedelta(hours=24), not {Value.shownDuration o}."
  | none =>
    let date ← s.date
    let micro := ofDigits
      ((c.fraction ++ List.replicate 6 '0').take 6 |>.map fun c => c.toNat - 48)
    if 24 ≤ c.hour then badValue "hour must be in 0..23"
    else if 60 ≤ c.minute then badValue "minute must be in 0..59"
    else if 60 ≤ c.second then badValue "second must be in 0..59"
    else return ⟨date, c.hour, c.minute, c.second, micro, offset⟩

/-- The day or moment that a text stands for. -/
def readStamp (s : String) : Step Value :=
  match Stamp.read? s.toList with
  | none =>
    .error (.content ⟨.noProperty "'NoneType' object has no attribute 'groupdict'", rfl⟩)
  | some stamp =>
    match stamp.clock with
    | none => .date <$> stamp.date
    | some c => .moment <$> stamp.moment c

/-- The bytes that a text stands for. -/
def readBinary (s : String) : Step Value :=
  if s.toList.all fun c => c.toNat < 128 then
    match Base64.decode? s.toList with
    | some bytes => .ok (.bytes bytes)
    | none => malformed "bytes are written in groups of four letters"
  else malformed "bytes are written in letters"

/-- The value of a text by its tag. -/
def scalarValue (tag : Tag) (s : String) : Step Value :=
  match tag with
  | .null => .ok .null
  | .bool => .bool <$> readBool s
  | .int => .int <$> readInt s
  | .float => .double <$> readFloat s
  | .text => .ok (.text s)
  | .binary => readBinary s
  | .timestamp => readStamp s
  | _ => malformed "a text has no such tag"

/-! ## Nodes as values -/

namespace Node

/-- The tag of a node. -/
def tag : Node → Tag
  | scalar t _ => t
  | list t _ => t
  | map t _ => t

mutual

/-- The text of a node: a map may have one under an equals sign. -/
def text? : Node → Option String
  | scalar _ s => some s
  | list _ _ => none
  | map _ entries => textUnderSign? entries

/-- The text under an equals sign. -/
def textUnderSign? : List (Node × Node) → Option String
  | [] => none
  | (key, value) :: rest => if key.tag = .value then text? value else textUnderSign? rest

end

mutual

/-- The value of a node. -/
def value : Node → Step Value
  | scalar tag s => scalarValue tag s
  | list tag items =>
    match tag with
    | .list => do return .list (← values items)
    | .orderedMap | .pairs => do return .list (← pairs items)
    | _ => malformed "a list has no such tag"
  | map tag entries =>
    match tag with
    | .map => do
      let (merged, own) ← entryValues entries
      return Value.mapOf (merged ++ own)
    | .set => do
      let (merged, own) ← entryValues entries
      return Value.setOf ((merged ++ own).map Prod.fst)
    | tag =>
      match textUnderSign? entries with
      | some s => scalarValue tag s
      | none => malformed "a map has no such tag"

/-- The values of several nodes. -/
def values : List Node → Step (List Value)
  | [] => .ok []
  | n :: rest => do return (← value n) :: (← values rest)

/-- The pairs that maps of one entry make. -/
def pairs : List Node → Step (List Value)
  | [] => .ok []
  | .map _ [(k, v)] :: rest => do return .tuple [← value k, ← value v] :: (← pairs rest)
  | _ :: _ => malformed "a pair is a map of one entry"

/-- The entries of a map: those that it takes over, and its own. -/
def entryValues : List (Node × Node) →
    Step (List (Value × Value) × List (Value × Value))
  | [] => .ok ([], [])
  | (k, v) :: rest => do
    if k.tag = .merge then
      let taken ← mergedEntries v
      let (merged, own) ← entryValues rest
      return (taken ++ merged, own)
    else
      let key ← if k.tag = .value then
          match k.text? with
          | some s => pure (Value.text s)
          | none => malformed "a key has no such tag"
        else value k
      if key.keyless?.isSome then malformed "a key cannot be a list or a map" else
      let w ← value v
      let (merged, own) ← entryValues rest
      return (merged, (key, w) :: own)

/-- The entries that a map takes over from a map, or from a list of maps. -/
def mergedEntries : Node → Step (List (Value × Value))
  | map _ entries => do
    let (merged, own) ← entryValues entries
    return merged ++ own
  | list _ items => mergedFromAll items
  | scalar _ _ => malformed "only maps can be taken over"

/-- The entries taken over from several maps; those of the first come last. -/
def mergedFromAll : List Node → Step (List (Value × Value))
  | [] => .ok []
  | map _ entries :: rest => do
    let (merged, own) ← entryValues entries
    return (← mergedFromAll rest) ++ (merged ++ own)
  | _ :: _ => malformed "only maps can be taken over"

end

end Node

/-- Reads a document as a value. A document without content is null. -/
def read (s : String) : Step Value := do
  match ← Node.ofTokens (← readTokens s.toList) with
  | none => return .null
  | some root => root.value

end PayloadCheck.Yaml
