import PayloadCheck.Network.DomainTable
import PayloadCheck.Network.Punycode
import PayloadCheck.Text.Casing
import PayloadCheck.Text.Normal

/-!
# International domain names

A domain name is a row of labels between points. Its characters are first replaced by those that
may stand in labels (capitals by small letters, wide forms by plain ones); then every label is
checked and written in letters, digits and hyphens. A label that is written so already is read back
and checked in the same way.
-/

namespace PayloadCheck.Network

open PayloadCheck.Text

/-! ## Replacing characters -/

/-- The characters that are written for one character of a domain name. -/
def writtenFor (c : Char) : List Char :=
  let n := c.toNat
  if n < 128 then lowerChars c
  else if permittedTable.contains n then [c]
  else if ignoredTable.contains n then []
  else match replacements.find? fun ((lo, hi), _) => lo ≤ n && n ≤ hi with
    | some ((lo, _), [other]) => [Char.ofNat (other + (n - lo))]
    | some (_, others) => others.map Char.ofNat
    | none =>
      if lowerChars c ≠ [c] then lowerChars c else (composedCodes [n]).map Char.ofNat

/-- A domain name with its characters replaced. -/
def written (cs : List Char) : List Char := composed (cs.flatMap writtenFor)

/-! ## Surroundings and directions -/

/-- Characters that may stand in any surroundings. -/
def isPermitted (c : Char) : Bool :=
  isAsciiDigit c || ('a' ≤ c && c ≤ 'z') || c == '-' || permittedTable.contains c.toNat

/-- Whether the Arabic digits of a label are all of one kind. -/
def hasOneKindOfDigits (label : List Char) : Bool :=
  let has (first : Nat) : Bool := label.any fun c => first ≤ c.toNat && c.toNat ≤ first + 9
  !(has 0x660 && has 0x6f0)

/-- Whether a character may stand between those before it, given last first, and those after it. -/
def fits (label before : List Char) (c : Char) (after : List Char) : Bool :=
  match c.toNat with
  | 0xb7 => before.head? == some 'l' && after.head? == some 'l'
  | 0x375 => after.head?.any fun d => greekTable.contains d.toNat
  | 0x5f3 | 0x5f4 => before.head?.any fun d => hebrewTable.contains d.toNat
  | 0x30fb => label.any fun d => eastAsianTable.contains d.toNat && d.toNat != 0x30fb
  | _ => isPermitted c

/-- Whether all characters fit; those before are given last first. -/
def allFit (label : List Char) : (before after : List Char) → Bool
  | _, [] => true
  | before, c :: after => fits label before c after && allFit label (c :: before) after

/-- The direction of a character. -/
inductive Direction where
  | left
  | right
  | arabicLetter
  | arabicNumber
  | europeanNumber
  | separator
  | neutral
  | mark
deriving DecidableEq, Repr

/-- The direction of a character of a label. -/
def directionOf (c : Char) : Direction :=
  let n := c.toNat
  if n < 128 then
    if isAsciiDigit c then .europeanNumber else if c = '-' then .separator else .left
  else if rightToLeftTable.contains n then .right
  else if arabicLetterTable.contains n then .arabicLetter
  else if arabicNumberTable.contains n then .arabicNumber
  else if europeanNumberTable.contains n then .europeanNumber
  else if neutralTable.contains n then .neutral
  else if directedMarkTable.contains n then .mark
  else .left

/-- Directions that make a label one with a direction. -/
def Direction.isBound (d : Direction) : Bool := d = right || d = arabicLetter || d = arabicNumber

/-- The rule for a label that begins from the right: it holds nothing that goes to the left, not
both kinds of numbers, and ends with a letter or a number, marks apart. -/
def goesRight (ds : List Direction) : Bool :=
  !ds.contains .left && !(ds.contains .arabicNumber && ds.contains .europeanNumber) &&
    match ds.reverse.find? (· ≠ .mark) with
    | some d => d.isBound || d = .europeanNumber
    | none => false

/-- The rule for a label that begins from the left. -/
def goesLeft (ds : List Direction) : Bool :=
  !ds.any Direction.isBound &&
    match ds.reverse.find? (· ≠ .mark) with
    | some d => d = .left || d = .europeanNumber
    | none => false

/-- Whether the characters of a label can be told apart whatever their directions. -/
def hasOneDirection (label : List Char) : Bool :=
  let ds := label.map directionOf
  if ds.any Direction.isBound then
    match ds.head? with
    | some .right | some .arabicLetter => goesRight ds
    | some .left => goesLeft ds
    | _ => false
  else true

/-! ## Labels -/

/-- The hyphens of a label stand inside, and not in the third and the fourth place. -/
def hasGoodHyphens (label : List Char) : Bool :=
  label.head? != some '-' && label.getLast? != some '-' && (label.drop 2).take 2 != ['-', '-']

/-- Whether a label may stand in a domain name. -/
def isLabel (label : List Char) : Bool :=
  !label.isEmpty && composed label == label && hasGoodHyphens label &&
    !label.head?.any isMark && allFit label [] label && hasOneKindOfDigits label &&
    hasOneDirection label

/-- The beginning of a label that is written in letters, digits and hyphens. -/
def codedMark : List Char := ['x', 'n', '-', '-']

/-- The characters of a label that is written in letters, digits and hyphens. -/
def decoded? (coded : List Char) : Option (List Char) :=
  if coded.isEmpty || coded.getLast? = some '-' then none
  else (readLabel coded).bind fun codes =>
    if codes.all Nat.isValidChar then some (codes.map Char.ofNat) else none

/-- A label in its characters and in letters, digits and hyphens. -/
structure Label where
  chars : List Char
  coded : List Char
deriving DecidableEq, Repr

/-- Reads a label. -/
def Label.read? (cs : List Char) : Option Label := do
  let label ←
    if cs.all fun c => c.toNat < 128 then
      if cs.take 4 = codedMark then do pure ⟨← decoded? (cs.drop 4), cs⟩ else pure ⟨cs, cs⟩
    else pure ⟨cs, codedMark ++ writeLabel cs⟩
  if isLabel label.chars && label.coded.length ≤ 63 then return label else none

/-- A domain name. -/
structure Domain where
  labels : List Label
deriving DecidableEq, Repr

namespace Domain

/-- A domain name in its characters. -/
def chars (d : Domain) : List Char := join ['.'] (d.labels.map Label.chars)

/-- A domain name in letters, digits, hyphens and points. -/
def coded (d : Domain) : List Char := join ['.'] (d.labels.map Label.coded)

/-- Characters of domain names. -/
def isDomainChar (c : Char) : Bool :=
  isAsciiLetter c || isAsciiDigit c || c == '-' || c == '.' || 128 ≤ c.toNat

/-- Reads a domain name. -/
def read? (cs : List Char) : Option Domain := do
  if !cs.all isDomainChar then none
  if cs.any fun c => !isPrintable c then none
  if cs.head?.any isMark then none
  let cs := written cs
  if !cs.all isDomainChar then none
  let d : Domain := ⟨← (pieces '.' cs).mapM Label.read?⟩
  if d.coded.length ≤ 253 then return d else none

end Domain

end PayloadCheck.Network
