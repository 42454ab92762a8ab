import PayloadCheck.Fault
import PayloadCheck.Text.Quoted

/-!
# Date formats by letters

A format in letters, such as `Y-m-d`, stands for one with directives, `%Y-%m-%d`. A backslash takes
the next character as it is; every other letter has to be in the table.
-/

namespace PayloadCheck.Time

open PayloadCheck.Text

/-- The letters of formats and the letters of the directives that they stand for. -/
def formatLetters : List (Char × Char) :=
  [('d', 'd'), ('j', 'd'), ('D', 'a'), ('l', 'A'), ('N', 'u'), ('w', 'w'),
   ('m', 'm'), ('n', 'm'), ('M', 'b'), ('F', 'B'),
   ('Y', 'Y'), ('y', 'y'),
   ('a', 'p'), ('A', 'p'), ('g', 'I'), ('h', 'I'), ('G', 'H'), ('H', 'H'),
   ('i', 'M'), ('s', 'S'), ('u', 'f'),
   ('O', 'z'), ('P', 'z'), ('T', 'Z')]

/-- The characters of the format with directives, or the first letter that is not in the table. -/
def directivesFor : List Char → Except Char (List Char)
  | [] => .ok []
  | ['\\'] => .ok []
  | '\\' :: c :: rest => do return c :: (← directivesFor rest)
  | c :: rest =>
    match formatLetters.lookup c with
    | some d => do return '%' :: d :: (← directivesFor rest)
    | none => if isLetter c then .error c else do return c :: (← directivesFor rest)

/-- The format with directives that a format in letters stands for. A format with a percent sign is
written with directives already and stays as it is. -/
def formatOfLetters (format : String) : Except Fault String :=
  if format.toList.contains '%' then .ok format
  else match directivesFor format.toList with
    | .ok cs => .ok (String.ofList cs)
    | .error c =>
      let letter := String.ofList [c]
      let shown := quoted format
      .error (.malformedRule "date_format" s!"Unsupported format character '{letter}' in {shown}")

end PayloadCheck.Time
