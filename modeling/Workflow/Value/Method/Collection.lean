import Workflow.Value.Arguments

/-!
# Methods of lists, tuples, dictionaries and sets

A method that changes its receiver gives the changed receiver beside its result.
-/

namespace Workflow

namespace Value

/-- The names of the methods of lists. -/
def listMethods : List String :=
  ["append", "clear", "copy", "count", "extend", "index", "insert", "pop", "remove", "reverse",
    "sort"]

/-- The names of the methods of tuples. -/
def tupleMethods : List String := ["count", "index"]

/-- The names of the methods of dictionaries. -/
def dictMethods : List String :=
  ["clear", "copy", "fromkeys", "get", "items", "keys", "pop", "popitem", "setdefault",
    "update", "values"]

/-- The names of the methods of dictionaries that can only be read. -/
def sealedMethods : List String :=
  ["copy", "get", "items", "keys", "values"]

/-- The names of the methods of sets. -/
def setMethods : List String :=
  ["add", "clear", "copy", "difference", "difference_update", "discard", "intersection",
    "intersection_update", "isdisjoint", "issubset", "issuperset", "pop", "remove",
    "symmetric_difference", "symmetric_difference_update", "union", "update"]

/-- A result, and what the receiver holds afterwards when the method changes it. -/
abbrev Change := Value × Option Value

/-- A bound of a search in a list, which must be an integer. -/
def searchBound (v : Value) : Outcome Int :=
  match v.asInt? with
  | some n => .ok n
  | none =>
      .error (.badArgument "slice indices must be integers or have an __index__ method")

/-- The place of the first item equal to a value within two bounds. -/
def placeOf? (xs : List Value) (x : Value) (bounds : List Value) : Outcome (Option Nat) := do
  let n : Int := xs.length
  let place (k : Int) : Nat := (if k < 0 then max 0 (k + n) else k).toNat
  let low <- (bounds[0]?).mapM searchBound
  let high <- (bounds[1]?).mapM searchBound
  let low := (low.map place).getD 0
  let high := (high.map place).getD xs.length
  .ok ((((xs.take high).drop low).findIdx? fun y => same y x).map (· + low))

/-- Pairs of keys and values, by their place among the items of an update. -/
def updatePairs (place : Nat) : List Value -> Outcome (List (Value × Value))
  | [] => .ok []
  | x :: rest =>
      match x.items with
      | .error _ =>
          .error (.badArgument
            s!"cannot convert dictionary update sequence element #{place} to a sequence")
      | .ok [k, w] => do
          let _ <- hashable k
          .ok ((k, w) :: (<- updatePairs (place + 1) rest))
      | .ok ys =>
          .error (.badValue
            s!"dictionary update sequence element #{place} has length {ys.length}; 2 is required")

/-- The entries an update brings: those of a mapping, or pairs, then the named ones. -/
def updateEntries (a : Arguments) (name : String) : Outcome (List (Value × Value)) := do
  let given <- match a.positional with
    | [] => pure []
    | [v] =>
        match v.entries? with
        | some entries => pure entries
        | none => do updatePairs 0 (<- v.items)
    | xs =>
        Except.error (Fault.badArgument s!"{name} expected at most 1 argument, got {xs.length}")
  .ok (given ++ a.named.map fun (n, v) => (str n, v))

/-- Put entries into a dictionary one after another. -/
def insertAll (entries new : List (Value × Value)) : List (Value × Value) :=
  new.foldl (fun acc (k, v) => insert acc k v) entries

/-- Remove the entry under a key. -/
def eraseKey (entries : List (Value × Value)) (key : Value) : List (Value × Value) :=
  entries.filter fun (k, _) => !same k key

/-- Call a method of a list that does not sort. -/
def callList? (xs : List Value) (name : String) (a : Arguments) : Option (Outcome Change) :=
  let full := s!"list.{name}"
  let keep (v : Value) : Change := (v, none)
  let become (ys : List Value) : Change := (null, some (list ys))
  match name with
  | "append" => some do .ok (become (xs ++ [(<- a.one full)]))
  | "clear" => some do a.nothing full; .ok (become [])
  | "copy" => some do a.nothing full; .ok (keep (list xs))
  | "count" => some do
      let x <- a.one full
      .ok (keep (int (xs.filter fun y => same y x).length))
  | "extend" => some do
      let more <- (<- a.one full).items
      .ok (become (xs ++ more))
  | "index" => some do
      match (<- a.between full "index" 1 3) with
      | [] => .ok (keep null)
      | x :: bounds =>
          match (<- placeOf? xs x bounds) with
          | some i => .ok (keep (int i))
          | none => .error (.badValue s!"{<- x.literalOf} is not in list")
  | "insert" => some do
      match (<- a.between full "insert" 2 2) with
      | [place, x] => do
          let n <- sizeArgument place
          let size : Int := xs.length
          let i := (max 0 (min size (if n < 0 then n + size else n))).toNat
          .ok (become (xs.take i ++ x :: xs.drop i))
      | _ => .ok (keep null)
  | "pop" => some do
      let args <- a.between full "pop" 0 1
      let n <- sizeArgument (args.headD (int (-1)))
      if xs.isEmpty then .error (.other "IndexError" "pop from empty list")
      else
        let place := if n < 0 then n + xs.length else n
        match (if place < 0 then none else xs[place.toNat]?) with
        | none => .error (.other "IndexError" "pop index out of range")
        | some x => .ok (x, some (list (xs.take place.toNat ++ xs.drop (place.toNat + 1))))
  | "remove" => some do
      let x <- a.one full
      match xs.findIdx? fun y => same y x with
      | none => .error (.badValue "list.remove(x): x not in list")
      | some i => .ok (become (xs.take i ++ xs.drop (i + 1)))
  | "reverse" => some do a.nothing full; .ok (become xs.reverse)
  | _ => none

/-- Call a method of a tuple. -/
def callTuple? (xs : List Value) (name : String) (a : Arguments) : Option (Outcome Value) :=
  let full := s!"tuple.{name}"
  match name with
  | "count" => some do
      let x <- a.one full
      .ok (int (xs.filter fun y => same y x).length)
  | "index" => some do
      match (<- a.between full "index" 1 3) with
      | [] => .ok null
      | x :: bounds =>
          match (<- placeOf? xs x bounds) with
          | some i => .ok (int i)
          | none => .error (.badValue "tuple.index(x): x not in tuple")
  | _ => none

/-- Call a method of a range, which has its numbers as items. -/
def callRange? (start stop step : Int) (name : String) (a : Arguments) : Option (Outcome Value) :=
  let full := s!"range.{name}"
  let xs := rangeItems start stop step
  match name with
  | "count" => some do
      let x <- a.one full
      .ok (int (xs.filter fun y => same y x).length)
  | "index" => some do
      let x <- a.one full
      match xs.findIdx? fun y => same y x with
      | some i => .ok (int i)
      | none => do
          let shown <- x.literalOf
          .error (.badValue (if x.asInt?.isSome then s!"{shown} is not in range"
            else "sequence.index(x): x not in sequence"))
  | _ => none

/-- Call a method of a dictionary, whose views show it as it will be when they are looked at. -/
def callDict? (owner : Value) (entries : List (Value × Value)) (name : String) (a : Arguments) :
    Option (Outcome Change) :=
  let full := s!"dict.{name}"
  let keep (v : Value) : Change := (v, none)
  let become (v : Value) (entries : List (Value × Value)) : Change := (v, some (dict entries))
  match name with
  | "keys" => some do a.nothing full; .ok (keep (view .keys owner))
  | "values" => some do a.nothing full; .ok (keep (view .values owner))
  | "items" => some do a.nothing full; .ok (keep (view .items owner))
  | "copy" => some do a.nothing full; .ok (keep (dict entries))
  | "clear" => some do a.nothing full; .ok (become null [])
  | "get" => some do
      let args <- a.between full "get" 1 2
      let key <- hashable (args.getD 0 null)
      .ok (keep ((lookup? entries key).getD (args.getD 1 null)))
  | "pop" => some do
      let args <- a.between full "pop" 1 2
      let key := args.getD 0 null
      let key <- if entries.isEmpty then .ok key else hashable key
      match lookup? entries key, args[1]? with
      | some v, _ => .ok (become v (eraseKey entries key))
      | none, some default => .ok (keep default)
      | none, none => .error (.keyAbsent key.literal)
  | "popitem" => some do
      a.nothing full
      match entries.getLast? with
      | some (k, v) => .ok (become (tuple [k, v]) entries.dropLast)
      | none => .error (.keyAbsent (str "popitem(): dictionary is empty").literal)
  | "setdefault" => some do
      let args <- a.between full "setdefault" 1 2
      let key <- hashable (args.getD 0 null)
      let default := args.getD 1 null
      match lookup? entries key with
      | some v => .ok (keep v)
      | none => .ok (become default (insert entries key default))
  | "update" => some do
      .ok (become null (insertAll entries (<- updateEntries a "update")))
  | "fromkeys" => some do
      let args <- a.between full "fromkeys" 1 2
      let keys <- (<- (args.getD 0 null).items).mapM hashable
      .ok (keep (dict (keys.foldl (fun acc k => insert acc k (args.getD 1 null)) [])))
  | _ => none

/-- The items of a value that may be items of a set. -/
def setItems (v : Value) : Outcome (List Value) := do
  (<- v.items).mapM hashable

/-- The items of all arguments of a set method. -/
def argumentItems (a : Arguments) (full : String) : Outcome (List (List Value)) := do
  a.positionalOnly full
  a.positional.mapM setItems

/-- The items that a set and another value have in common. -/
def sharedItems (xs : List Value) (v : Value) (ys : List Value) : List Value :=
  match v.bare with
  | set _ => commonItems xs ys
  | _ => (ys.filter fun y => isAmong y xs).foldl addItem []

/-- Whether all items of a value are in a set; the first that is not ends the search. -/
def holdsAll (xs : List Value) : List Value -> Outcome Bool
  | [] => .ok true
  | y :: rest => do
      let y <- hashable y
      if isAmong y xs then holdsAll xs rest else .ok false

/-- Whether some item of a value is in a set; the first that is ends the search. -/
def holdsSome (xs : List Value) : List Value -> Outcome Bool
  | [] => .ok false
  | y :: rest => do
      let y <- hashable y
      if isAmong y xs then .ok true else holdsSome xs rest

/-- Call a method of a set. -/
def callSet? (xs : List Value) (name : String) (a : Arguments) : Option (Outcome Change) :=
  let full := s!"set.{name}"
  let keep (v : Value) : Change := (v, none)
  let fresh (ys : List Value) : Change := (set (inSetOrder ys), none)
  let become (v : Value) (ys : List Value) : Change := (v, some (set ys))
  let without (ys : List Value) : List Value := xs.filter fun x => !isAmong x ys
  let added (ys : List Value) : List Value := inSetOrder (ys.foldl addItem xs)
  let shared : Outcome (List Value) := do
    let others <- argumentItems a full
    .ok ((a.positional.zip others).foldl (fun acc (v, ys) => sharedItems acc v ys) xs)
  let different : Outcome (List Value) := do
    let ys := (<- setItems (<- a.one full)).foldl addItem []
    .ok ((ys.filter fun y => !isAmong y xs) ++ without ys)
  match name with
  | "copy" => some do a.nothing full; .ok (keep (set xs))
  | "clear" => some do a.nothing full; .ok (become null [])
  | "add" => some do
      let x <- hashable (<- a.one full)
      .ok (become null (if isAmong x xs then xs else added [x]))
  | "discard" => some do .ok (become null (without [(<- soughtItem (<- a.one full))]))
  | "remove" => some do
      let x <- soughtItem (<- a.one full)
      if isAmong x xs then .ok (become null (without [x])) else .error (.keyAbsent x.literal)
  | "pop" => some do
      a.nothing full
      match xs with
      | x :: rest => .ok (become x rest)
      | [] => .error (.keyAbsent (str "pop from an empty set").literal)
  | "union" => some do .ok (keep (set (added (<- argumentItems a full).flatten)))
  | "update" => some do .ok (become null (added (<- argumentItems a full).flatten))
  | "difference" => some do .ok (fresh (without (<- argumentItems a full).flatten))
  | "difference_update" => some do .ok (become null (without (<- argumentItems a full).flatten))
  | "intersection" => some do .ok (fresh (<- shared))
  | "intersection_update" => some do .ok (become null (inSetOrder (<- shared)))
  | "symmetric_difference" => some do .ok (fresh (<- different))
  | "symmetric_difference_update" => some do .ok (become null (inSetOrder (<- different)))
  | "issubset" => some do
      let ys <- setItems (<- a.one full)
      .ok (keep (bool (xs.all fun x => isAmong x ys)))
  | "issuperset" => some do
      .ok (keep (bool (<- holdsAll xs (<- (<- a.one full).items))))
  | "isdisjoint" => some do
      .ok (keep (bool (!(<- holdsSome xs (<- (<- a.one full).items)))))
  | _ => none

/-- Call a method of a view that is like a set. -/
def callView? (xs : List Value) (kind name : String) (a : Arguments) : Option (Outcome Value) :=
  match name with
  | "isdisjoint" => some do
      let ys <- (<- a.one s!"{kind}.isdisjoint").items
      .ok (bool (!xs.any fun x => isAmong x ys))
  | _ => none

end Value

end Workflow
