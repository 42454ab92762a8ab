import PayloadCheck.Text.Property
import PayloadCheck.Text.Quoted
import PayloadCheck.Value.Path

/-!
# Options of a command line

A grammar lists the options of a program and the commands that may follow them. Words are first
told apart: an option by its name, by the beginning of exactly one name, or with its argument after
an equals sign; everything after `--` is no option. Then they are read from left to right. The
first word that is no option is the command, and all further words are the command's own; without
commands such a word is left over, as are unknown options.
-/

namespace PayloadCheck.Command

open PayloadCheck.Text

/-! ## Grammars -/

/-- What an option takes. -/
inductive Takes where
  /-- Nothing; the option asks for help. -/
  | help
  /-- Nothing; the option is a mark. -/
  | mark
  /-- A text. -/
  | text
  /-- A text of a list. -/
  | oneOf (choices : List String)
  /-- A whole number. -/
  | whole
deriving DecidableEq, Repr

/-- An option. -/
structure Switch where
  names : List String
  takes : Takes := .text
  required : Bool := false
deriving DecidableEq, Repr

namespace Switch

/-- An option as faults name it. -/
def shown (o : Switch) : String := joinTexts "/" o.names

/-- Whether an option takes an argument. -/
def takesArgument (o : Switch) : Bool := o.takes != .help && o.takes != .mark

/-- The name under which the argument of an option is kept. -/
def key (o : Switch) : String := o.names.getLast?.getD ""

end Switch

/-- The options of a program, its commands, and its help. -/
structure Grammar where
  program : String
  switches : List Switch
  commands : List String := []
  help : String

/-- The argument of an option. -/
inductive Argument where
  | mark
  | text (s : String)
  | whole (i : Int)
deriving DecidableEq, Repr

/-- Why a command line is not carried out. -/
inductive Stop where
  /-- It is wrong. -/
  | usage (program text : String)
  /-- It asks for help. -/
  | help (text : String)
  /-- An argument vanished. -/
  | fault (fault : Fault)
deriving DecidableEq, Repr

/-! ## Telling words apart -/

/-- A word of a command line. -/
inductive Word where
  /-- A word that is no option. -/
  | plain (text : String)
  /-- Two dashes, after which there are no options. -/
  | dashes
  /-- An option by the given name of its own, perhaps with an argument after an equals sign. -/
  | option (switch : Switch) (name : String) (argument : Option String)
  /-- An unknown option. -/
  | unknown (text : String)
deriving DecidableEq, Repr

/-- The text of a word that is left over. -/
def Word.text : Word → String
  | plain s | unknown s => s
  | dashes => "--"
  | option _ name _ => name

/-- A word with the parts before and after its first equals sign. -/
def cutEquals (word : String) : Option (String × String) :=
  (cut? '=' word.toList).map fun (a, b) => (String.ofList a, String.ofList b)

/-- Whether a word is a negative number. -/
def isNegativeNumber (word : String) : Bool :=
  match word.toList with
  | '-' :: rest =>
    let number := dropLineEnd rest
    match cut? '.' number with
    | none => !number.isEmpty && number.all isDigit
    | some (whole, fraction) => whole.all isDigit && !fraction.isEmpty && fraction.all isDigit
  | _ => false

namespace Grammar

/-- The names of all options, with their options. -/
def names (g : Grammar) : List (String × Switch) :=
  g.switches.flatMap fun o => o.names.map fun n => (n, o)

/-- The options that a word may be short for. A long one stands for the names that it begins, a
short one also for the name of one letter that begins it, the rest being its argument. -/
def expansions (g : Grammar) (word : String) : List Word :=
  if word.startsWith "--" then
    let (start, argument) := match cutEquals word with
      | some (a, b) => (a, some b)
      | none => (word, none)
    (g.names.filter fun (n, _) => n.startsWith start).map fun (n, o) => .option o n argument
  else
    let letter := String.ofList (word.toList.take 2)
    g.names.filterMap fun (n, o) =>
      if n == letter then some (.option o n (some (String.ofList (word.toList.drop 2))))
      else if n.startsWith word then some (.option o n none)
      else none

/-- The fault of a wrong command line. -/
def wrong {α : Type} (g : Grammar) (text : String) : Except Stop α := .error (.usage g.program text)

/-- The option that a word names in full. -/
def named? (g : Grammar) (word : String) : Option Word :=
  match g.names.lookup word with
  | some o => some (.option o word none)
  | none =>
    match cutEquals word with
    | some (name, argument) => (g.names.lookup name).map fun o => .option o name (some argument)
    | none => none

/-- The fault of a word that is short for several options. -/
def ambiguous (word : String) (names : List String) : String :=
  let shown := joinTexts ", " names
  s!"ambiguous option: {word} could match {shown}"

/-- Tells what a word is. -/
def classify (g : Grammar) (word : String) : Except Stop Word :=
  if !word.startsWith "-" || word.length = 1 then .ok (.plain word)
  else match g.named? word with
    | some w => .ok w
    | none => match g.expansions word with
      | [w] => .ok w
      | [] =>
        .ok (if isNegativeNumber word || word.contains ' ' then .plain word else .unknown word)
      | several => g.wrong (ambiguous word (several.map Word.text))

/-- Tells what every word is. -/
def classifyAll (g : Grammar) : List String → Except Stop (List Word)
  | [] => .ok []
  | "--" :: rest => .ok (.dashes :: rest.map .plain)
  | word :: rest => do return (← g.classify word) :: (← g.classifyAll rest)

/-! ## Reading arguments -/

/-- The fault of an option. -/
def wrongOption {α : Type} (g : Grammar) (o : Switch) (text : String) : Except Stop α :=
  g.wrong s!"argument {o.shown}: {text}"

/-- The fault of a word that is not in a list. -/
def choiceText (word : String) (choices : List String) : String :=
  let shown := joinTexts ", " (choices.map quoted)
  s!"invalid choice: {quoted word} (choose from {shown})"

/-- Reads the argument of an option. -/
def readArgument (g : Grammar) (o : Switch) (word : String) : Except Stop Argument :=
  match o.takes with
  | .help | .mark => .ok .mark
  | .text => .ok (.text word)
  | .oneOf choices =>
    if choices.contains word then .ok (.text word) else g.wrongOption o (choiceText word choices)
  | .whole =>
    match Value.integerOf word with
    | .ok i => .ok (.whole i)
    | .error _ => g.wrongOption o s!"invalid int value: {quoted word}"

/-- An option that takes nothing: it asks for help, or is a mark. -/
def takeNothing (g : Grammar) (o : Switch) : Except Stop (Switch × Argument) :=
  if o.takes = .help then .error (.help g.help) else .ok (o, .mark)

/-- The letters that follow an option of one letter which takes nothing. Each must be such an
option itself. -/
def readLetters (g : Grammar) (o : Switch) : List Char → Except Stop (Switch × Argument)
  | [] => g.takeNothing o
  | c :: rest =>
    match g.names.lookup (String.ofList ['-', c]) with
    | none => g.wrongOption o s!"ignored explicit argument {quoted (String.ofList (c :: rest))}"
    | some next => g.readLetters next rest

/-- The fault of two dashes after an equals sign. -/
def vanished : Fault := .badValue "not enough values to unpack (expected 1, got 0)"

/-- Reads an option with what follows its equals sign or its letter. -/
def readAttached (g : Grammar) (o : Switch) (name argument : String) :
    Except Stop (Switch × Argument) :=
  if o.takesArgument then
    if argument == "--" then .error (.fault vanished)
    else do return (o, ← g.readArgument o argument)
  else if !name.startsWith "--" && !argument.isEmpty then g.readLetters o argument.toList
  else g.wrongOption o s!"ignored explicit argument {quoted argument}"

/-! ## Reading the line -/

/-- What a command line says: the arguments of the options in their order, the command with the
words after it, and the words that are left over. -/
structure Line where
  arguments : List (Switch × Argument) := []
  command : Option (String × List String) := none
  extra : List String := []

/-- Adds an argument. -/
def Line.add (l : Line) (a : Switch × Argument) : Line := { l with arguments := l.arguments ++ [a] }

/-- Adds a word that is left over. -/
def Line.addExtra (l : Line) (s : String) : Line := { l with extra := l.extra ++ [s] }

/-- Whether there is a word behind two dashes or none. -/
def hasPlain (words : List Word) : Bool :=
  words.any fun w => match w with
    | .plain _ => true
    | _ => false

/-- Takes a word and all that follow it as the command; `given` are these words as they stand. -/
def takeCommand (g : Grammar) (given : List String) (l : Line) : Except Stop Line :=
  match given with
  | [] => .ok l
  | name :: rest =>
    if g.commands.contains name then .ok { l with command := some (name, rest) }
    else g.wrong s!"argument command: {choiceText name g.commands}"

/-- Reads words; `given` are the same words as they stand. -/
def readWords (g : Grammar) : List Word → (given : List String) → Line → Except Stop Line
  | [], _, l => .ok l
  | .plain s :: rest, given, l =>
    if g.commands.isEmpty then g.readWords rest (given.drop 1) (l.addExtra s)
    else g.takeCommand given l
  | .dashes :: rest, given, l =>
    if g.commands.isEmpty || !hasPlain rest then g.readWords rest (given.drop 1) (l.addExtra "--")
    else g.takeCommand given l
  | .unknown s :: rest, given, l => g.readWords rest (given.drop 1) (l.addExtra s)
  | .option o name (some argument) :: rest, given, l => do
    g.readWords rest (given.drop 1) (l.add (← g.readAttached o name argument))
  | .option o _ none :: rest, given, l =>
    if o.takesArgument then
      match rest with
      | .plain s :: after => do
        g.readWords after (given.drop 2) (l.add (o, ← g.readArgument o s))
      | _ => g.wrongOption o "expected one argument"
    else do g.readWords rest (given.drop 1) (l.add (← g.takeNothing o))

/-- Makes sure that every required option is given. -/
def checkRequired (g : Grammar) (l : Line) : Except Stop Unit :=
  let given := l.arguments.map fun (o, _) => o.key
  match g.switches.filter fun o => o.required && !given.contains o.key with
  | [] => .ok ()
  | missing =>
    let shown := joinTexts ", " (missing.map Switch.shown)
    g.wrong s!"the following arguments are required: {shown}"

/-- Reads the words of a command line. -/
def read (g : Grammar) (words : List String) : Except Stop Line := do
  let l ← g.readWords (← g.classifyAll words) words {}
  g.checkRequired l
  return l

end Grammar

/-! ## Looking arguments up -/

namespace Grammar.Line

/-- The last argument of an option. -/
def last? (l : Line) (key : String) : Option Argument :=
  ((l.arguments.filter fun (o, _) => o.key == key).getLast?).map Prod.snd

/-- The text of an option. -/
def text? (l : Line) (key : String) : Option String :=
  match l.last? key with
  | some (.text s) => some s
  | _ => none

/-- The number of an option. -/
def whole? (l : Line) (key : String) : Option Int :=
  match l.last? key with
  | some (.whole i) => some i
  | _ => none

/-- Whether an option is given. -/
def has (l : Line) (key : String) : Bool := (l.last? key).isSome

end Grammar.Line

end PayloadCheck.Command
