import PayloadCheck.Number.Shortest
import PayloadCheck.Text.Pieces

/-!
# The text form of metrics

Metrics are shown family by family: a line of help, a line for the kind, then one line per sample
with its labels in the order of their names.
-/

namespace PayloadCheck.Report

open PayloadCheck.Text

/-- How the values of a family are meant. -/
inductive Kind where
  | counter
  | histogram
  | gauge
deriving DecidableEq, Repr

/-- The word for a kind. -/
def Kind.word : Kind → String
  | counter => "counter"
  | histogram => "histogram"
  | gauge => "gauge"

/-- One value of a family; `ending` is added to the name of the family. -/
structure Sample where
  ending : String := ""
  labels : List (String × String)
  value : Double
deriving DecidableEq, Repr

/-- A family of samples. -/
structure Family where
  name : String
  help : String
  kind : Kind
  samples : List Sample
deriving DecidableEq, Repr

/-- Drops zeros and points at the end. -/
def dropZeros (cs : List Char) : List Char :=
  (cs.reverse.dropWhile fun c => c == '0' || c == '.').reverse

/-- The text of a value. A positive value with more than six digits before its point is written
with an exponent. -/
def sampleText (d : Double) : String :=
  match d with
  | .nan => "NaN"
  | .infinite negative => if negative then "-Inf" else "+Inf"
  | .finite negative m _ =>
    match cut? '.' d.text.toList with
    | some (first :: whole, fraction) =>
      if !negative && m != 0 && 6 < (first :: whole).length then
        String.ofList (dropZeros (first :: '.' :: whole ++ fraction)) ++
          s!"e+0{whole.length}"
      else d.text
    | _ => d.text

/-- A character of a label's text. -/
def labelChar (c : Char) : List Char :=
  if c = '\\' then ['\\', '\\'] else if c = '\n' then ['\\', 'n']
  else if c = '"' then ['\\', '"'] else [c]

/-- A label with its text between quotes. -/
def labelText (label : String × String) : String :=
  label.1 ++ "=\"" ++ String.ofList (label.2.toList.flatMap labelChar) ++ "\""

/-- Labels in the order of their names. -/
def orderLabels (labels : List (String × String)) : List (String × String) :=
  labels.mergeSort fun a b => a.1 ≤ b.1

namespace Family

/-- The line of a sample. -/
def sampleLine (f : Family) (s : Sample) : String :=
  f.name ++ s.ending ++ "\x7b" ++ joinTexts "," ((orderLabels s.labels).map labelText) ++ "\x7d " ++
    sampleText s.value

/-- The lines of a family. -/
def lines (f : Family) : List String :=
  s!"# HELP {f.name} {f.help}" :: s!"# TYPE {f.name} {f.kind.word}" :: f.samples.map f.sampleLine

end Family

end PayloadCheck.Report
