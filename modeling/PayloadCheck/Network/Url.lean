import PayloadCheck.Fault
import PayloadCheck.Network.Address
import PayloadCheck.Text.Casing
import PayloadCheck.Text.Quoted

/-!
# Locators

A locator is cut into scheme, authority, path, query and fragment; the authority holds the host
and perhaps a user and a port.
-/

namespace PayloadCheck.Network

open PayloadCheck.Text

/-- The parts of a locator. -/
structure Url where
  scheme : List Char
  authority : List Char
  path : List Char
  query : List Char
  fragment : List Char
deriving DecidableEq, Repr, Inhabited

/-- Characters of a scheme. -/
def isSchemeChar (c : Char) : Bool :=
  isAsciiLetter c || isAsciiDigit c || c == '+' || c == '-' || c == '.'

/-- The parts before and after the last `sep`; without one everything comes after. -/
def cutLast (sep : Char) (cs : List Char) : List Char × List Char :=
  match cut? sep cs.reverse with
  | none => ([], cs)
  | some (after, before) => (before.reverse, after.reverse)

/-- The parts before and after the first `sep`; without one nothing comes after. -/
def cutFirst (sep : Char) (cs : List Char) : List Char × List Char := (cut? sep cs).getD (cs, [])

/-- Characters that turn into delimiters of a locator when their compatibility forms are
resolved. -/
def hidesDelimiter (c : Char) : Bool :=
  [0x2047, 0x2048, 0x2049, 0x2100, 0x2101, 0x2105, 0x2106, 0x2a74, 0xfe13, 0xfe16, 0xfe55, 0xfe56,
   0xfe5f, 0xfe6b, 0xff03, 0xff0f, 0xff1a, 0xff1f, 0xff20].contains c.toNat

/-- The fault of brackets that hold no address. -/
def badBrackets : Fault := .badValue "Invalid IPv6 URL"

/-- Whether a host is an address of a version to come: `v`, a hexadecimal version, a point, and
something after it on the same line. -/
def isFutureAddress (host : List Char) : Bool :=
  match host with
  | 'v' :: rest =>
    let version := rest.takeWhile fun c => (hexValue? c).isSome
    match rest.drop version.length with
    | '.' :: address => !version.isEmpty && !address.isEmpty && !address.contains '\n'
    | _ => false
  | _ => false

/-- Checks the host that an authority with brackets names. -/
def checkHost (host : List Char) : Except Fault Unit :=
  if host.head? = some 'v' then
    if isFutureAddress host then .ok () else .error (.badValue "IPvFuture address is invalid")
  else if isAddress4 host then .error (.badValue "An IPv4 address cannot be in brackets")
  else if isAddress6 host then .ok ()
  else
    let shown := quoted (String.ofList host)
    .error (.badValue s!"{shown} does not appear to be an IPv4 or IPv6 address")

/-- Checks an authority with brackets: nothing stands before them, and only a port after them. -/
def checkBrackets (authority : List Char) : Except Fault Unit :=
  let place := (cutLast '@' authority).2
  match cut? '[' place with
  | some (before, bracketed) =>
    let (host, after) := cutFirst ']' bracketed
    if !before.isEmpty then .error badBrackets
    else if !after.isEmpty && after.head? != some ':' then .error badBrackets
    else checkHost host
  | none => checkHost (cutFirst ':' place).1

/-- Checks an authority. -/
def checkAuthority (authority : List Char) : Except Fault Unit := do
  let opens := authority.contains '['
  let closes := authority.contains ']'
  if opens != closes then throw badBrackets
  if opens then checkBrackets authority

/-- Characters that are passed over at the beginning of a locator. -/
def isLeadingNoise (c : Char) : Bool := c.toNat ≤ 32

/-- Characters that are passed over everywhere in a locator. -/
def isNoise (c : Char) : Bool := c == '\t' || c == '\r' || c == '\n'

namespace Url

/-- Cuts a locator into its parts. -/
def read (text : List Char) : Except Fault Url := do
  let cs := (text.dropWhile isLeadingNoise).filter fun c => !isNoise c
  let (scheme, rest) :=
    match cut? ':' cs with
    | some (name, rest) =>
      if name.head?.any isAsciiLetter && name.all isSchemeChar then (name.flatMap lowerChars, rest)
      else ([], cs)
    | none => ([], cs)
  let (authority, rest) :=
    match rest with
    | '/' :: '/' :: more => more.span fun c => c != '/' && c != '?' && c != '#'
    | _ => ([], rest)
  checkAuthority authority
  let (rest, fragment) := cutFirst '#' rest
  let (path, query) := cutFirst '?' rest
  if authority.any hidesDelimiter then
    let shown := String.ofList authority
    throw (.badValue s!"netloc '{shown}' contains invalid characters under NFKC normalization")
  return { scheme, authority, path, query, fragment }

/-- Host and port as they are written; brackets are left out. -/
def place (u : Url) : List Char × List Char :=
  let host := (cutLast '@' u.authority).2
  match cut? '[' host with
  | some (_, bracketed) =>
    let (host, after) := cutFirst ']' bracketed
    (host, (cutFirst ':' after).2)
  | none => cutFirst ':' host

/-- The host in small letters; the scope of an address stays as it is. -/
def host (u : Url) : List Char :=
  let written := u.place.1
  match cut? '%' written with
  | some (name, scope) => (lower (String.ofList name)).toList ++ '%' :: scope
  | none => (lower (String.ofList written)).toList

/-- Whether the port is missing or a number up to 65535. -/
def hasValidPort (u : Url) : Bool :=
  let port := u.place.2
  port.all isAsciiDigit && decimalNumber port ≤ 65535

end Url

end PayloadCheck.Network
