import Workflow.Value.Order

/-!
# The order of sets

The items of a set stand in slots of a table.  The number of an item says where the search
for a free slot begins, and a table that gets full is made larger, so the order of the items
depends on their numbers and on the order in which they were added.
-/

namespace Workflow

namespace Value

/-- Numbers of items are counted up to this prime. -/
def slotModulus : Nat := Nat.pow 2 61 - 1

/-- Numbers are kept in a machine word. -/
def slotWord : Nat := Nat.pow 2 64

/-- A number with a sign as a machine word; minus one is set apart. -/
def signedSlot (negative : Bool) (m : Nat) : Nat :=
  if !negative then m
  else if m == 1 then slotWord - 2
  else (slotWord - m) % slotWord

/-- Turn the bits of a machine word to the left by 31 places. -/
def turnBits (n : Nat) : Nat :=
  (n * Nat.pow 2 31) % slotWord + n / Nat.pow 2 33

/-- The number of a tuple whose items have numbers. -/
def tupleSlot (numbers : List Nat) : Nat :=
  let first := 11400714785074694791
  let second := 14029467366897019727
  let fifth := 2870177450012600261
  let mixed := numbers.foldl
    (fun acc n => (turnBits ((acc + n * second) % slotWord) * first) % slotWord) fifth
  let mixed := (mixed + (numbers.length ^^^ (fifth ^^^ 3527539))) % slotWord
  if mixed == slotWord - 1 then 1546275796 else mixed

/-- The number of an item that is a number or a tuple of numbers. -/
def slotNumber? : Value -> Option Nat
  | bool b => some (if b then 1 else 0)
  | int n => some (signedSlot (n < 0) (n.natAbs % slotModulus))
  | float x =>
      match Number.Binary.ofFloat x with
      | .finite negative mantissa exponent =>
          some (signedSlot negative
            (mantissa * Nat.pow 2 (exponent % 61).toNat % slotModulus))
      | .infinite negative => some (signedSlot negative 314159)
      | .nan => none
  | tuple items => (slotNumbers? items).map tupleSlot
  | _ => none
where
  /-- The numbers of several items. -/
  slotNumbers? : List Value -> Option (List Nat)
    | [] => some []
    | x :: rest => do some ((<- slotNumber? x) :: (<- slotNumbers? rest))

/-- A table of slots, some of which are taken by an item and its number. -/
abbrev Slots := List (Option (Nat × Value))

/--
The free slot for a number: some slots are tried one after another, then the search goes on
elsewhere.  The fuel bounds the number of places where the search goes on.
-/
def freeSlot (slots : Slots) : Nat -> Nat -> Nat -> Nat
  | 0, place, _ => place
  | fuel + 1, place, rest =>
      let size := slots.length
      let tries := if place + 9 < size then 10 else 1
      match ((slots.drop place).take tries).findIdx? Option.isNone with
      | some i => place + i
      | none =>
          let rest := rest / 32
          freeSlot slots fuel ((place * 5 + 1 + rest) % size) rest

/-- Put an item with a number into a free slot. -/
def takeSlot (slots : Slots) (number : Nat) (x : Value) : Slots :=
  let place := freeSlot slots (slots.length + 16) (number % slots.length) number
  slots.set place (some (number, x))

/-- The first power of two above a number of items, from a number of slots on. -/
def slotCount : Nat -> Nat -> Nat -> Nat
  | 0, size, _ => size
  | fuel + 1, size, items => if size ≤ items then slotCount fuel (size * 2) items else size

/-- Add an item to a table, which is made larger when it gets full. -/
def addSlot (slots : Slots) (number : Nat) (x : Value) : Slots :=
  let slots := takeSlot slots number x
  let taken := slots.filterMap id
  if taken.length * 5 < (slots.length - 1) * 3 then slots
  else
    let larger := slotCount taken.length 8 (taken.length * 4)
    taken.foldl (fun acc (n, y) => takeSlot acc n y) (List.replicate larger none)

/-- Different items in the order of a set that they are added to, when they have numbers. -/
def inSetOrder (items : List Value) : List Value :=
  match slotNumber?.slotNumbers? items with
  | none => items
  | some numbers =>
      let slots := (numbers.zip items).foldl (fun acc (n, x) => addSlot acc n x)
        (List.replicate 8 none)
      (slots.filterMap id).map (·.2)

/-- The items of two sets that both have, those of the smaller one. -/
def commonItems (xs ys : List Value) : List Value :=
  if xs.length < ys.length then xs.filter fun x => isAmong x ys
  else ys.filter fun y => isAmong y xs

end Value

end Workflow
