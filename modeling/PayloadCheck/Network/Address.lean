import PayloadCheck.Number.Digits
import PayloadCheck.Text.CodeSet
import PayloadCheck.Text.Property

/-!
# Internet addresses

Addresses of version 4 (four decimal numbers) and version 6 (eight hexadecimal groups, a run of
zero groups abbreviated, the last two groups perhaps written like a version 4 address), and the
looser number forms that a name lookup takes for an address.
-/

namespace PayloadCheck.Network

open PayloadCheck.Text

/-- The number written by decimal digits. -/
def decimalNumber (cs : List Char) : Nat := cs.foldl (fun n c => 10 * n + (c.toNat - 48)) 0

/-- One number of a version 4 address: up to 255, without superfluous zeros. -/
def isOctet (cs : List Char) : Bool :=
  !cs.isEmpty && cs.all isAsciiDigit && cs.length ≤ 3 &&
    (cs == ['0'] || cs.head? != some '0') && decimalNumber cs ≤ 255

/-- Addresses of version 4. -/
def isAddress4 (cs : List Char) : Bool :=
  let parts := pieces '.' cs
  parts.length == 4 && parts.all isOctet

/-- One group of a version 6 address. -/
def isGroup (cs : List Char) : Bool :=
  !cs.isEmpty && cs.length ≤ 4 && cs.all fun c => (hexValue? c).isSome

/-- The groups of a version 6 address, a version 4 ending taken for two groups. -/
def groups? (cs : List Char) : Option (List (List Char)) :=
  let parts := pieces ':' cs
  match parts.getLast? with
  | none => none
  | some last =>
    if last.contains '.' then
      if isAddress4 last then some (parts.dropLast ++ [['0'], ['0']]) else none
    else some parts

/-- Whether groups around an abbreviation make up an address: an empty end belongs to the
abbreviation, and at least one group is left out. -/
def areGroups (before after : List (List Char)) : Bool :=
  let before' := if before.head? == some [] then before.drop 1 else before
  let after' := if after.getLast? == some [] then after.dropLast else after
  (before.head? != some [] || before'.isEmpty) &&
    (after.getLast? != some [] || after'.isEmpty) &&
    before'.length + after'.length < 8 && before'.all isGroup && after'.all isGroup

/-- Addresses of version 6 without a scope. -/
def isBareAddress6 (cs : List Char) : Bool :=
  (pieces ':' cs).length ≥ 3 &&
    match groups? cs with
    | none => false
    | some parts =>
      parts.length ≤ 9 &&
        match parts with
        | [] => false
        | first :: rest =>
          let inner := rest.dropLast
          match inner.findIdx? List.isEmpty with
          | none => parts.length == 8 && parts.all isGroup
          | some i =>
            !(inner.drop (i + 1)).any List.isEmpty &&
              areGroups (first :: inner.take i) (rest.drop (i + 1))

/-- Addresses of version 6, perhaps with a scope after a percent sign. -/
def isAddress6 (cs : List Char) : Bool :=
  !cs.contains '/' &&
    match cut? '%' cs with
    | none => isBareAddress6 cs
    | some (address, scope) => !scope.isEmpty && !scope.contains '%' && isBareAddress6 address

/-- Addresses of either version. -/
def isAddress (cs : List Char) : Bool := isAddress4 cs || isAddress6 cs

/-! ## What a name lookup takes for an address -/

/-- The number written by digits of a base below or equal to sixteen. -/
def numberInBase? (base : Nat) (cs : List Char) : Option Nat :=
  if cs.isEmpty then none
  else cs.foldlM (fun n c => do
    let d ← hexValue? c
    if d < base then some (base * n + d) else none) 0

/-- A number in decimal, in octal after a zero, or in hexadecimal after `0x`. -/
def looseNumber? (cs : List Char) : Option Nat :=
  match cs with
  | '0' :: x :: rest =>
    if x = 'x' ∨ x = 'X' then numberInBase? 16 rest else numberInBase? 8 (x :: rest)
  | _ => numberInBase? 10 cs

/-- One to four numbers, the last of which fills the bytes that are left. -/
def isLooseAddress4 (cs : List Char) : Bool :=
  let parts := (pieces '.' cs).map looseNumber?
  parts.length ≤ 4 && parts.dropLast.all (fun n => n.any (· ≤ 255)) &&
    match parts.getLast? with
    | some (some n) => n < Number.twoPow (8 * (5 - parts.length))
    | _ => false

/-- Whether a name lookup answers for a host without asking anyone: the host is an address, with a
scope only if that is a number. -/
def isLiteralHost (cs : List Char) : Bool :=
  isLooseAddress4 cs ||
    match cut? '%' cs with
    | none => isBareAddress6 cs
    | some (address, scope) =>
      !scope.isEmpty && scope.all isAsciiDigit && isBareAddress6 address

end PayloadCheck.Network
