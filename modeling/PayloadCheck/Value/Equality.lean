import PayloadCheck.Fault
import PayloadCheck.Value.Basic

/-!
# Equality of values

Numbers are equal by value, across kinds and with the two truth values counting as 1 and 0;
moments by clock reading or by instant; sets and maps without regard to order; specifications by
their identifiers. A value that is not a number equals nothing.
-/

namespace PayloadCheck.Value

open PayloadCheck.Time

/-- A value that counts as a number. -/
inductive Amount where
  | number (n : Number)
  | decimal (d : Decimal)
deriving DecidableEq, Repr

/-- The number that a value is, if it is one. -/
def amount? : Value → Option Amount
  | bool b => some (.number (.whole (if b then 1 else 0)))
  | int i => some (.number (.whole i))
  | double d => some (.number (.double d))
  | decimal d => some (.decimal d)
  | _ => none

/-- Equality of numbers of any kind. -/
def Amount.same : Amount → Amount → Bool
  | .number a, .number b => a.same b
  | .decimal a, .decimal b => a.same b
  | .decimal a, .number b => Number.sameDecimal a b
  | .number a, .decimal b => Number.sameDecimal b a

mutual

/-- Equality of two values. -/
def same : Value → Value → Bool
  | absent, absent => true
  | null, null => true
  | text a, text b => a == b
  | bytes a, bytes b => a == b
  | date a, date b => a == b
  | moment a, moment b => a.same b
  | list a, list b => sameList a b
  | tuple a, tuple b => sameList a b
  | set a, set b => a.length == b.length && allIn a b
  | map a, map b => a.length == b.length && allEntriesIn a b
  | upload a, upload b => a == b
  | spec a, spec b => a.same b
  | a, b =>
    match a.amount?, b.amount? with
    | some x, some y => x.same y
    | _, _ => false

/-- Equality item by item. -/
def sameList : List Value → List Value → Bool
  | [], [] => true
  | a :: as, b :: bs => same a b && sameList as bs
  | _, _ => false

/-- Whether every value of the first list is in the second. -/
def allIn : List Value → List Value → Bool
  | [], _ => true
  | a :: as, bs => bs.any (fun b => same a b) && allIn as bs

/-- Whether every entry of the first list is in the second. -/
def allEntriesIn : List (Value × Value) → List (Value × Value) → Bool
  | [], _ => true
  | (k, v) :: as, bs => bs.any (fun (k', v') => same k k' && same v v') && allEntriesIn as bs

end

mutual

/-- The part of a value that keeps it from being a key: lists, sets and maps are no keys, nor are
tuples that hold one. -/
def keyless? : Value → Option Value
  | list items => some (list items)
  | set items => some (set items)
  | map entries => some (map entries)
  | tuple items => firstKeyless? items
  | _ => none

/-- The first part of several values that keeps one of them from being a key. -/
def firstKeyless? : List Value → Option Value
  | [] => none
  | v :: vs =>
    match keyless? v with
    | some part => some part
    | none => firstKeyless? vs

end

/-- Makes sure that a value can be a key. -/
def asKey (v : Value) : Except Fault Value :=
  match v.keyless? with
  | some part => .error (.wrongKind s!"unhashable type: '{part.kind}'")
  | none => .ok v

/-- Puts an entry into a map: a key that is there already keeps its place and takes the new
value. -/
def insertEntry (key value : Value) : List (Value × Value) → List (Value × Value)
  | [] => [(key, value)]
  | (k, v) :: rest =>
    if same k key then (k, value) :: rest else (k, v) :: insertEntry key value rest

/-- A map of the given entries. -/
def mapOf (entries : List (Value × Value)) : Value :=
  map (entries.foldl (fun m (k, v) => insertEntry k v m) [])

/-- A set of the given items, each once. -/
def setOf (items : List Value) : Value :=
  set (items.foldl (fun s v => if s.any (same v) then s else s ++ [v]) [])

/-- The value under a key in the entries of a map. -/
def lookup? (key : Value) (entries : List (Value × Value)) : Option Value :=
  (entries.find? fun (k, _) => same k key).map Prod.snd

/-- The value under a text in the entries of a map. -/
def field? (key : String) (entries : List (Value × Value)) : Option Value :=
  entries.findSome? fun (k, v) =>
    match k with
    | text s => if s = key then some v else none
    | _ => none

end PayloadCheck.Value
