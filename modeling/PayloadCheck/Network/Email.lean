import PayloadCheck.Network.Domain

/-!
# E-mail addresses

An address is a local part, an at sign and a domain name. The local part is a row of words between
points; quoted ones, names in front and addresses in brackets are not taken. The domain name has at
least two labels, ends with a letter and is not one that is set apart for special use.
-/

namespace PayloadCheck.Network

open PayloadCheck.Text

/-- Characters of the words of a local part. -/
def isLocalChar (c : Char) : Bool :=
  isAsciiLetter c || isAsciiDigit c || "_!#$%&'*+-/=?^\x60\x7b|\x7d~".toList.contains c ||
    128 ≤ c.toNat

/-- Whether a text is a row of words between points, none of whose characters is invisible, and
which does not begin with a mark. -/
def isLocalPart (cs : List Char) : Bool :=
  (pieces '.' cs).all (fun word => !word.isEmpty && word.all isLocalChar) &&
    cs.all isPrintable && !cs.head?.any isMark

/-- The last labels that are set apart for special use. -/
def specialLabels : List String := ["arpa", "invalid", "local", "localhost", "onion", "test"]

/-- Whether mail can be delivered under a domain name. -/
def isDeliverable (d : Domain) : Bool :=
  2 ≤ d.labels.length && d.coded.getLast?.any isAsciiLetter &&
    !d.labels.getLast?.any fun l => specialLabels.contains (String.ofList l.coded)

/-- The greatest number of bytes of an address. -/
def addressLimit : Nat := 254

/-- Whether local part and domain are short enough together. -/
def isShort (localPart domain : List Char) : Bool :=
  (String.ofList (localPart ++ '@' :: domain)).utf8ByteSize ≤ addressLimit

/-- Whether a text is an e-mail address. -/
def isEmail (s : String) : Bool :=
  match cut? '@' s.toList with
  | none => false
  | some (localPart, domain) =>
    let normal := composed localPart
    isLocalPart localPart && isLocalPart normal && isShort localPart domain &&
      match Domain.read? domain with
      | some d => isDeliverable d && isShort normal d.chars && isShort normal d.coded
      | none => false

end PayloadCheck.Network
