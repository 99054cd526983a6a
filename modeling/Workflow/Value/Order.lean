import Workflow.Number.Binary
import Workflow.Value.Absence

/-!
# Equality and order of values

Numbers are compared by value across their types, texts by code point, sequences of
one type item by item, dictionaries and sets without regard to order.
-/

namespace Workflow

/-- The four order relations. -/
inductive Relation where
  | lt
  | le
  | gt
  | ge
  deriving Repr, DecidableEq

namespace Relation

/-- The sign of a relation. -/
def sign : Relation -> String
  | lt => "<"
  | le => "<="
  | gt => ">"
  | ge => ">="

/-- Whether a relation holds of two things that compare in the given way. -/
def holds (r : Relation) (o : Ordering) : Bool :=
  match r, o with
  | lt, .lt => true
  | le, .gt => false
  | le, _ => true
  | gt, .gt => true
  | ge, .lt => false
  | ge, _ => true
  | _, _ => false

end Relation

namespace Value

/-- Equality of numbers across their types; `none` when one is not a number. -/
def numberEq? : Value -> Value -> Option Bool
  | float x, float y => some (x == y)
  | float x, w => w.asInt?.map fun n => Number.compareIntFloat n x == some .eq
  | v, float y => v.asInt?.map fun n => Number.compareIntFloat n y == some .eq
  | v, w =>
      match v.asInt?, w.asInt? with
      | some m, some n => some (m == n)
      | _, _ => none

/-- Equality of numbers, complex ones included: one without an imaginary part is its real part. -/
def quantityEq : Value -> Value -> Bool
  | complex a b, complex c d => a == c && b == d
  | complex a b, w => b == 0.0 && (numberEq? (float a) w).getD false
  | v, complex c d => d == 0.0 && (numberEq? v (float c)).getD false
  | v, w => (numberEq? v w).getD false

/-- Whether two values are one and the same changeable value. -/
def sameMark (v w : Value) : Bool :=
  match v.mark?, w.mark? with
  | some m, some n => m == n
  | _, _ => false

/-- The members of a set, or of a view that is like a set: the keys or the items of a dictionary. -/
def setMembers? : Value -> Option (List Value)
  | set xs => some xs
  | view .keys owner => some (viewItems .keys owner)
  | view .items owner => some (viewItems .items owner)
  | object _ content => setMembers? content
  | _ => none

/-- What two parts of markup or text have in common is their characters. -/
def textEq (s : String) (w : Value) : Bool :=
  w.asText? == some s

mutual

/-- Equality of values. -/
def equal (v w : Value) : Bool :=
  match v, w.bare with
  | object _ content, w => equal content w
  | null, null => true
  | str s, w => textEq s w
  | markup s, w => textEq s w
  | list xs, list ys => equalLists xs ys
  | tuple xs, tuple ys => equalLists xs ys
  | dict ps, dict qs => ps.length == qs.length && entriesWithin ps qs
  | dict ps, sealed qs => ps.length == qs.length && entriesWithin ps qs
  | sealed ps, dict qs => ps.length == qs.length && entriesWithin ps qs
  | sealed ps, sealed qs => ps.length == qs.length && entriesWithin ps qs
  | set xs, w =>
      match setMembers? w with
      | some ys => xs.length == ys.length && allWithin xs ys
      | none => false
  | view kind owner, w =>
      match kind, setMembers? w with
      | .keys, some ys => keysEqual owner ys
      | .items, some ys => pairsEqual owner ys
      | _, _ => false
  | bytes a, bytes b => a == b
  | datetime t, datetime u =>
      t.offset.isSome == u.offset.isSome && t.utcMicroseconds == u.utcMicroseconds
  | date d, date e => d == e
  | span m, span n => m == n
  | function f, function g => f == g
  | converter f, converter g => f == g
  | method v f, method w g => f == g && (sameMark v w || (v.mark?.isNone && equal v w))
  | range a b c, range a' b' c' =>
      rangeItemsEqual a b c a' b' c'
  | undefined _ _, undefined _ _ => true
  | slot _ i, slot _ j => i == j
  | stream _ i, stream _ j => i == j
  | v, w => quantityEq v w

/-- Item by item equality of two sequences; what is one and the same counts as equal. -/
def equalLists : List Value -> List Value -> Bool
  | [], [] => true
  | x :: xs, y :: ys => (sameMark x y || equal x y) && equalLists xs ys
  | _, _ => false

/-- Every entry has an equal entry among the others. -/
def entriesWithin : List (Value × Value) -> List (Value × Value) -> Bool
  | [], _ => true
  | (k, v) :: rest, qs =>
      (qs.any fun (l, w) => (sameMark k l || equal k l) && (sameMark v w || equal v w))
        && entriesWithin rest qs

/-- The keys of a dictionary are the members of a set. -/
def keysEqual : Value -> List Value -> Bool
  | dict ps, ys => ps.length == ys.length && keysAmong ps ys
  | sealed ps, ys => ps.length == ys.length && keysAmong ps ys
  | object _ content, ys => keysEqual content ys
  | _, _ => false

/-- The items of a dictionary are the members of a set. -/
def pairsEqual : Value -> List Value -> Bool
  | dict ps, ys => ps.length == ys.length && pairsAmong ps ys
  | sealed ps, ys => ps.length == ys.length && pairsAmong ps ys
  | object _ content, ys => pairsEqual content ys
  | _, _ => false

/-- Every key is one of some items. -/
def keysAmong : List (Value × Value) -> List Value -> Bool
  | [], _ => true
  | (k, _) :: rest, ys => (ys.any fun y => sameMark k y || equal k y) && keysAmong rest ys

/-- Every pair of key and value is one of some items. -/
def pairsAmong : List (Value × Value) -> List Value -> Bool
  | [], _ => true
  | (k, v) :: rest, ys =>
      (ys.any fun y =>
        match y with
        | tuple [l, w] => (sameMark k l || equal k l) && (sameMark v w || equal v w)
        | _ => false) && pairsAmong rest ys

/-- Every item equals one of the others. -/
def allWithin : List Value -> List Value -> Bool
  | [], _ => true
  | x :: xs, ys => (ys.any fun y => sameMark x y || equal x y) && allWithin xs ys

/-- Ranges are equal when they have the same items. -/
def rangeItemsEqual (a b c a' b' c' : Int) : Bool :=
  let n := rangeLength a b c
  n == rangeLength a' b' c' && (n == 0 || (a == a' && (n == 1 || c == c')))

end

/-- Whether two items are the same or equal, which is what collections ask about. -/
def same (v w : Value) : Bool :=
  sameMark v w || equal v w

/-- Whether a value is among some items. -/
def isAmong (v : Value) (items : List Value) : Bool :=
  items.any fun x => same x v

/-- The value under an equal key. -/
def lookup? (entries : List (Value × Value)) (key : Value) : Option Value :=
  (entries.find? fun (k, _) => same k key).map (·.2)

/-- Put a value under a key, in the place of the entry it replaces or at the end. -/
def insert (entries : List (Value × Value)) (key value : Value) : List (Value × Value) :=
  match entries with
  | [] => [(key, value)]
  | (k, v) :: rest =>
      if same k key then (k, value) :: rest else (k, v) :: insert rest key value

/-- Add an item to a set. -/
def addItem (items : List Value) (x : Value) : List Value :=
  if isAmong x items then items else items ++ [x]

/-- The first part of a value that cannot be a key, by its type. -/
def unhashable? : Value -> Option String
  | object _ content => unhashable? content
  | list _ => some "list"
  | dict _ => some "dict"
  | sealed _ => some "mappingproxy"
  | set _ => some "set"
  | view .keys _ => some "dict_keys"
  | view .items _ => some "dict_items"
  | slot .namespace _ => none
  | tuple items => unhashableItem? items
  | _ => none
where
  /-- The first item that cannot be part of a key. -/
  unhashableItem? : List Value -> Option String
    | [] => none
    | x :: rest => (unhashable? x).orElse fun _ => unhashableItem? rest

/-- A value that may be a key of a dictionary or an item of a set. -/
def hashable (v : Value) : Outcome Value :=
  match unhashable? v with
  | some kind => .error (.unhashable kind)
  | none => .ok v

/-- What is looked for in a set: a set counts as a value that no set holds. -/
def soughtItem (v : Value) : Outcome Value :=
  match v.bare with
  | set _ => .ok v
  | _ => hashable v

/-- The order of two numbers; the inner `none` when one of them is not a number. -/
def numberOrder? : Value -> Value -> Option (Option Ordering)
  | float x, float y => some (Number.compareFloat x y)
  | float x, w => w.asInt?.map fun n => (Number.compareIntFloat n x).map Ordering.swap
  | v, float y => v.asInt?.map fun n => Number.compareIntFloat n y
  | v, w =>
      match v.asInt?, w.asInt? with
      | some m, some n => some (some (compare m n))
      | _, _ => none

/-- Sets are ordered by inclusion. -/
def relatedSets (r : Relation) (xs ys : List Value) : Bool :=
  match r with
  | .le => allWithin xs ys
  | .lt => allWithin xs ys && xs.length < ys.length
  | .ge => allWithin ys xs
  | .gt => allWithin ys xs && ys.length < xs.length

mutual

/-- Whether a relation holds between two values. -/
def related (r : Relation) (v w : Value) : Outcome Bool :=
  match v, w.bare with
  | object _ content, w => related r content w
  | list xs, list ys => relatedLists r xs ys
  | tuple xs, tuple ys => relatedLists r xs ys
  | bytes a, bytes b => .ok (r.holds (compareOfLessAndEq (a.map UInt8.toNat) (b.map UInt8.toNat)))
  | datetime t, datetime u =>
      if t.offset.isSome == u.offset.isSome then
        .ok (r.holds (compare t.utcMicroseconds u.utcMicroseconds))
      else
        .error (.badArgument "can't compare offset-naive and offset-aware datetimes")
  | date d, date e => .ok (r.holds (compare d.dayNumber e.dayNumber))
  | datetime _, date _ => .error (.badArgument "can't compare datetime.datetime to datetime.date")
  | date _, datetime _ => .error (.badArgument "can't compare datetime.datetime to datetime.date")
  | span m, span n => .ok (r.holds (compare m n))
  | undefined hint absence, _ => .error (absenceFault hint absence)
  | _, undefined hint absence => .error (absenceFault hint absence)
  | v, w =>
      match v.asText?, w.asText? with
      | some s, some t => .ok (r.holds (compareOfLessAndEq s t))
      | _, _ =>
          match setMembers? v, setMembers? w with
          | some xs, some ys => .ok (relatedSets r xs ys)
          | _, _ =>
              match numberOrder? v w with
              | some (some o) => .ok (r.holds o)
              | some none => .ok false
              | none => .error (.unordered r.sign v.kind w.kind)

/-- Sequences are ordered by their first unequal items, and a shorter one comes first. -/
def relatedLists (r : Relation) : List Value -> List Value -> Outcome Bool
  | [], [] => .ok (r.holds .eq)
  | [], _ :: _ => .ok (r.holds .lt)
  | _ :: _, [] => .ok (r.holds .gt)
  | x :: xs, y :: ys => do
      strictUse x
      strictUse y
      if sameMark x y || equal x y then relatedLists r xs ys else related r x y

end

/-! ## Sorting -/

/--
Insert an item into a sorted list by bisection, comparing the item with the middle
one; items equal to it stay before it.
-/
def insertSorted (less : α -> α -> Outcome Bool) (sorted : Array α) (x : α) :
    Outcome (Array α) := do
  let place <- search sorted.size 0 sorted.size
  .ok (sorted.toList.take place ++ x :: sorted.toList.drop place).toArray
where
  /-- The first place whose item is greater than `x`. -/
  search : Nat -> Nat -> Nat -> Outcome Nat
    | 0, low, _ => .ok low
    | fuel + 1, low, high =>
        if low < high then
          let mid := (low + high) / 2
          match sorted[mid]? with
          | none => .ok low
          | some y => do
              if (<- less x y) then search fuel low mid else search fuel (mid + 1) high
        else
          .ok low

/-- Split off the longest strictly descending start, comparing each item with the one before. -/
def descendingRun (less : α -> α -> Outcome Bool) (last : α) : List α -> Outcome (List α × List α)
  | [] => .ok ([], [])
  | x :: rest => do
      if (<- less x last) then
        let (run, tail) <- descendingRun less x rest
        .ok (x :: run, tail)
      else
        .ok ([], x :: rest)

/-- Split off the longest ascending start, comparing each item with the one before. -/
def ascendingRun (less : α -> α -> Outcome Bool) (last : α) : List α -> Outcome (List α × List α)
  | [] => .ok ([], [])
  | x :: rest => do
      if (<- less x last) then
        .ok ([], x :: rest)
      else
        let (run, tail) <- ascendingRun less x rest
        .ok (x :: run, tail)

/--
Sort stably by a comparison that can fail.  The first run is taken as it is, or
turned round when it descends; each further item is inserted by bisection, so an
item is always compared with one that stood before it.
-/
def sortBy (less : α -> α -> Outcome Bool) (items : List α) : Outcome (List α) := do
  match items with
  | [] => .ok []
  | [x] => .ok [x]
  | x :: y :: rest =>
      let (run, tail) <-
        if (<- less y x) then do
          let (run, tail) <- descendingRun less y rest
          pure ((x :: y :: run).reverse, tail)
        else do
          let (run, tail) <- ascendingRun less y rest
          pure (x :: y :: run, tail)
      let sorted <- tail.foldlM (insertSorted less) run.toArray
      .ok sorted.toList

/-- Sort items by their keys in ascending order, or descending with equal items in their given order. -/
def sortKeyed (descending : Bool) (keyed : List (Value × Value)) : Outcome (List Value) := do
  let less (a b : Value × Value) : Outcome Bool := related .lt a.1 b.1
  if descending then
    let sorted <- sortBy less keyed.reverse
    .ok (sorted.reverse.map (·.2))
  else
    let sorted <- sortBy less keyed
    .ok (sorted.map (·.2))

/-- Sort values by keys made of them. -/
def sortValues (key : Value -> Outcome Value) (descending : Bool) (items : List Value) :
    Outcome (List Value) := do
  sortKeyed descending (<- items.mapM fun x => do pure ((<- key x), x))

end Value

end Workflow
