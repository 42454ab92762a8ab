import PayloadCheck.Check.Basic
import PayloadCheck.Network.Email
import PayloadCheck.Network.Url
import PayloadCheck.Pattern.Expression

/-!
# Forms of texts

Rules on what a text looks like: expressions, classes of characters, e-mail addresses, locators
and internet addresses.
-/

namespace PayloadCheck.Check

open PayloadCheck.Text PayloadCheck.Value PayloadCheck.Network PayloadCheck.Pattern

/-- Texts, integers and truth values. -/
def isTextOrWhole : Value → Bool
  | .text _ | .int _ | .bool _ => true
  | _ => false

/-- Texts, integers, truth values and doubles. -/
def isSearchable : Value → Bool
  | .double _ => true
  | v => isTextOrWhole v

/-- Texts of one or more characters of a class; a line end may stand at the end. -/
def isOf (p : Char → Bool) (s : String) : Bool :=
  let cs := dropLineEnd s.toList
  !cs.isEmpty && cs.all p

/-- Word characters that are no digits. -/
def isAlpha (c : Char) : Bool := isWord c && !isDecimal c && c != '_'

/-- Word characters, the underscore excepted. -/
def isAlphaNum (c : Char) : Bool := isWord c && c != '_'

/-- Word characters and the hyphen. -/
def isAlphaDash (c : Char) : Bool := isWord c || c == '-'

/-- Schemes that name no host. -/
def hostlessSchemes : List String := ["mailto", "news", "file"]

/-- Whether a locator names something: a host, or under some schemes anything at all. -/
def namesSomething (u : Url) : Bool :=
  if hostlessSchemes.contains (String.ofList u.scheme) then
    !u.authority.isEmpty || !u.path.isEmpty
  else !u.host.isEmpty

/-- Absolute locators without blanks. -/
def isUrl (s : String) : Bool :=
  !s.isEmpty && !s.toList.any isBlank &&
    match Url.read s.toList with
    | .ok u => u.hasValidPort && !u.scheme.isEmpty && namesSomething u
    | .error _ => false

/-- Whether a text has three characters one after the other somewhere. -/
def hasSchemeMark : List Char → Bool
  | ':' :: '/' :: '/' :: _ => true
  | _ :: rest => hasSchemeMark rest
  | [] => false

/-- The host of a locator, which may be written without a scheme. -/
def hostOf (cs : List Char) : Except Fault (List Char) := do
  let u ← Url.read (if hasSchemeMark cs then cs else '/' :: '/' :: cs)
  return u.host

/-- The host of a locator leads to an address. -/
def activeUrlCheck (resolves : List Char → Bool) : Check :=
  .deciding "active_url" 0 fun _ _ v _ =>
    match v with
    | .text s => do
      let host ← hostOf s.toList
      return !host.isEmpty && resolves host
    | _ => .ok false

/-- The checks on forms of texts; `resolves` tells which hosts lead to an address. -/
def patternChecks (resolves : List Char → Bool) : List Check :=
  [.deciding "regex" 1 fun _ _ v ps => do
     if !isSearchable v then return false
     let e ← Expression.ofParameter (← parameter ps 0)
     return (e.search (← v.comparable)).isSome,
   .deciding "email" 0 fun _ _ v _ =>
     match v with
     | .text s => .ok (isEmail s)
     | _ => .ok false,
   .deciding "url" 0 fun _ _ v _ =>
     match v with
     | .text s => .ok (isUrl s)
     | _ => .ok false,
   activeUrlCheck resolves,
   .deciding "ip" 0 fun _ _ v _ =>
     match v.comparable with
     | .ok s => .ok (isAddress s.toList)
     | .error _ => .ok false,
   .deciding "alpha" 0 fun _ _ v _ =>
     match v with
     | .text s => .ok (isOf isAlpha s)
     | _ => .ok false,
   .deciding "alpha_num" 0 fun _ _ v _ => do
     if isTextOrWhole v then return isOf isAlphaNum (← v.comparable) else return false,
   .deciding "alpha_dash" 0 fun _ _ v _ => do
     if isTextOrWhole v then return isOf isAlphaDash (← v.comparable) else return false]

end PayloadCheck.Check
