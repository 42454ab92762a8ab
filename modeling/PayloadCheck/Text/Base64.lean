import PayloadCheck.Text.Property

/-!
# Bytes written with letters

Bytes are written in groups of three with four of 64 letters. Characters that are no letters are
passed over; a group that is not full must be filled up with equals signs, and after those nothing
more is read.
-/

namespace PayloadCheck.Text.Base64

/-- The value of a letter. -/
def letterValue? (c : Char) : Option Nat :=
  if 'A' ≤ c && c ≤ 'Z' then some (c.toNat - 65)
  else if 'a' ≤ c && c ≤ 'z' then some (c.toNat - 71)
  else if '0' ≤ c && c ≤ '9' then some (c.toNat + 4)
  else if c = '+' then some 62
  else if c = '/' then some 63
  else none

/-- Reads letters. `place` is the number of letters read of the group, `carry` what is left over of
the last one, `fill` the number of equals signs since. -/
def decodeFrom (place carry fill : Nat) : List Char → Option (List UInt8)
  | [] => if place = 0 then some [] else none
  | c :: rest =>
    if c = '=' then
      if 2 ≤ place ∧ 4 ≤ place + fill + 1 then some []
      else decodeFrom place carry (if 2 ≤ place then fill + 1 else fill) rest
    else match letterValue? c with
      | none => decodeFrom place carry fill rest
      | some v =>
        match place with
        | 0 => decodeFrom 1 v 0 rest
        | 1 => (UInt8.ofNat (carry * 4 + v / 16) :: ·) <$> decodeFrom 2 (v % 16) 0 rest
        | 2 => (UInt8.ofNat (carry * 16 + v / 4) :: ·) <$> decodeFrom 3 (v % 4) 0 rest
        | _ => (UInt8.ofNat (carry * 64 + v) :: ·) <$> decodeFrom 0 0 0 rest

/-- The bytes that a text stands for. -/
def decode? (cs : List Char) : Option (List UInt8) := decodeFrom 0 0 0 cs

end PayloadCheck.Text.Base64
