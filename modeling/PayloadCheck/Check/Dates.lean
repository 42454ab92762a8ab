import PayloadCheck.Check.Basic
import PayloadCheck.Time.Format
import PayloadCheck.Time.Iso
import PayloadCheck.Time.Letters

/-!
# Dates

Reading dates in many notations, and the rules on dates. Moments with an offset are turned into
universal time, so that any two dates can be ordered.
-/

namespace PayloadCheck.Check

open PayloadCheck.Text PayloadCheck.Time PayloadCheck.Value

/-- The notations that are tried, in order, after the standard one. -/
def dateNotations : List String :=
  ["%Y-%m-%d %H:%M:%S", "%Y-%m-%d %H:%M", "%Y/%m/%d", "%Y/%m/%d %H:%M:%S", "%m/%d/%Y",
   "%m/%d/%Y %H:%M:%S", "%d-%m-%Y", "%d.%m.%Y", "%d %B %Y", "%d %b %Y", "%B %d %Y", "%B %d, %Y",
   "%b %d, %Y"]

/-- The same as formats. -/
def dateFormats : List Format := dateNotations.filterMap fun s => Format.ofChars? s.toList

/-- The date that a word tells from the present moment. -/
def wordDate? (now : Moment) (word : String) : Option Moment :=
  let day := fun (n : Int) => (Date.ofDays? (now.date.toDays + n)).map Moment.midnight
  if word = "now" then some now
  else if word = "today" then day 0
  else if word = "tomorrow" then day 1
  else if word = "yesterday" then day (-1)
  else none

/-- The date that a trimmed text tells in one of the notations. -/
def notedDate (cs : List Char) : Except Fault (Option Moment) :=
  match readIso? cs with
  | some m => some <$> m.toUniversal
  | none => .ok (dateFormats.findSome? fun f => ((f.read (String.ofList cs)).toOption).join)

/-- Reads a date from a moment, a day or a text. -/
def readDate (now : Moment) : Value → Except Fault (Option Moment)
  | .moment m => some <$> m.toUniversal
  | .date d => .ok (some (.midnight d))
  | .text s =>
    let cs := trimChars s.toList
    if cs.isEmpty then .ok none
    else match wordDate? now (lower (String.ofList cs)) with
      | some m => .ok (some m)
      | none => notedDate cs
  | _ => .ok none

/-- The date that a reference tells: by itself, or as the value of the field that it names. -/
def referenceDate (c : Context) (reference : String) : Except Fault (Option Moment) := do
  match ← readDate c.now (.text reference) with
  | some m => return some m
  | none => readDate c.now (← c.value reference)

/-- Compares the date of a value with the date of a reference. -/
def comparesDates (c : Context) (v : Value) (reference : String) (holds : Int → Int → Bool) :
    Except Fault Bool := do
  match ← readDate c.now v with
  | none => return false
  | some current =>
    match ← referenceDate c reference with
    | none => return false
    | some target => return holds current.ticks target.ticks

/-- Whether a value is a text of the given format. -/
def hasDateFormat (v : Value) (format : String) : Except Fault Bool :=
  match v with
  | .text s => do
    let moment? ← readBy (← formatOfLetters format) s
    return moment?.isSome
  | _ => .ok false

/-- The checks on dates. -/
def dateChecks : List Check :=
  [.deciding "date" 0 fun c _ v _ => do return (← readDate c.now v).isSome,
   .deciding "date_format" 1 fun _ _ v ps =>
     match v with
     | .text _ => do hasDateFormat v (← parameter ps 0)
     | _ => .ok false,
   .deciding "before" 1 fun c _ v ps => do
     comparesDates c v (← parameter ps 0) fun a b => a < b,
   .deciding "after" 1 fun c _ v ps => do
     comparesDates c v (← parameter ps 0) fun a b => b < a]

end PayloadCheck.Check
