import PayloadCheck.Text.Quoted
import PayloadCheck.Value.Equality

/-!
# Texts of values

Two texts of a value: the one that shows its structure (`shown`), with texts quoted, and the one
that rules compare and messages contain (`text`), where a text is itself. An integer of too many
digits has neither.
-/

namespace PayloadCheck.Value

open PayloadCheck.Text PayloadCheck.Number PayloadCheck.Time

/-- The fault of an integer with too many digits. -/
def tooManyDigits : Fault :=
  .badValue "Exceeds the limit (4300 digits) for integer string conversion; use sys.set_int_max_str_digits() to increase the limit"

/-- The text of an integer. -/
def intText? (i : Int) : Except Fault String :=
  if i.natAbs < tenPow maxDigits then .ok (intText i) else .error tooManyDigits

/-- A text of comma-separated numbers. -/
def numberList (ns : List Nat) : String := joinTexts ", " (ns.map natText)

/-- A duration as its structure shows it: days, seconds and microseconds, those that are zero left
out, and the last two never negative. -/
def shownDuration (ticks : Int) : String :=
  let days := ticks / ticksPerDay
  let rest := ticks % ticksPerDay
  let seconds := rest / ticksPerSecond
  let micro := rest % ticksPerSecond
  let parts := (if days = 0 then [] else ["days=" ++ intText days])
    ++ (if seconds = 0 then [] else ["seconds=" ++ intText seconds])
    ++ (if micro = 0 then [] else ["microseconds=" ++ intText micro])
  "datetime.timedelta(" ++ joinTexts ", " parts ++ ")"

/-- An offset from universal time as its structure shows it. -/
def shownOffset (offset : Int) : String :=
  if offset = 0 then "datetime.timezone.utc"
  else "datetime.timezone(" ++ shownDuration offset ++ ")"

/-- A moment as its structure shows it: trailing zero seconds and microseconds are left out. -/
def shownMoment (m : Moment) : String :=
  let start := [m.date.year, m.date.month, m.date.day, m.hour, m.minute]
  let tail := if m.micro ≠ 0 then [m.second, m.micro] else if m.second ≠ 0 then [m.second] else []
  let zone := match m.offset with
    | none => ""
    | some o => ", tzinfo=" ++ shownOffset o
  "datetime.datetime(" ++ numberList (start ++ tail) ++ zone ++ ")"

/-- A text or nothing, as its structure shows it. -/
def shownOptional : Option String → String
  | none => "None"
  | some s => quoted s

/-- A truth value. -/
def boolText (b : Bool) : String := if b then "True" else "False"

/-- Parameters of a specification. -/
def shownParameters (ps : List String) : String :=
  match ps with
  | [p] => "(" ++ quoted p ++ ",)"
  | _ => "(" ++ joinTexts ", " (ps.map quoted) ++ ")"

/-- The fields of an upload. -/
def uploadFields (u : Upload) (separator : String) : Except Fault String := do
  let size ← intText? u.size
  return joinTexts separator
    ["path=" ++ quoted u.path, "size=" ++ size, "valid=" ++ boolText u.valid,
     "mime_type=" ++ shownOptional u.mediaType,
     "original_name=" ++ shownOptional u.clientName]

mutual

/-- The text that shows the structure of a value. -/
def shown : Value → Except Fault String
  | absent => .ok "ABSENT"
  | null => .ok "None"
  | bool b => .ok (boolText b)
  | int i => intText? i
  | double d => .ok d.text
  | decimal d => .ok ("Decimal('" ++ d.text ++ "')")
  | text s => .ok (quoted s)
  | bytes bs => .ok (quotedBytes bs)
  | date d => .ok ("datetime.date(" ++ numberList [d.year, d.month, d.day] ++ ")")
  | moment m => .ok (shownMoment m)
  | list items => do return "[" ++ joinTexts ", " (← shownAll items) ++ "]"
  | tuple items => do
    match ← shownAll items with
    | [one] => return "(" ++ one ++ ",)"
    | texts => return "(" ++ joinTexts ", " texts ++ ")"
  | set items => do
    if items.isEmpty then return "set()"
    return "\x7b" ++ joinTexts ", " (← shownAll items) ++ "\x7d"
  | map entries => do return "\x7b" ++ joinTexts ", " (← shownEntries entries) ++ "\x7d"
  | upload u => do return "UploadedFile(" ++ (← uploadFields u ", ") ++ ")"
  | spec s =>
    .ok ("RuleSpec(rule_name=" ++ quoted s.name ++ ", parameters=" ++ shownParameters s.parameters
      ++ ")")

/-- The texts of several values. -/
def shownAll : List Value → Except Fault (List String)
  | [] => .ok []
  | v :: vs => do return (← shown v) :: (← shownAll vs)

/-- The texts of the entries of a map. -/
def shownEntries : List (Value × Value) → Except Fault (List String)
  | [] => .ok []
  | (k, v) :: rest => do
    let key ← shown k
    let value ← shown v
    return (key ++ ": " ++ value) :: (← shownEntries rest)

end

/-- The text of a value. -/
def plain : Value → Except Fault String
  | text s => .ok s
  | decimal d => .ok d.text
  | date d => .ok d.isoText
  | moment m => .ok (String.ofList (m.isoChars ' '))
  | upload u => uploadFields u " "
  | spec s => .ok s.text
  | v => v.shown

end PayloadCheck.Value
