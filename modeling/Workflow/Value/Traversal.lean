import Workflow.Value.Access
import Workflow.Value.Objects

/-!
# Going through values

A collection that changes while one goes through it shows its changes: items put behind
the place reached are still met, and a dictionary or a set must not change its size.
-/

namespace Workflow

/-- What is left to go through. -/
inductive Traversal where
  /-- Items that cannot change any more. -/
  | fixed (items : List Value)
  /-- The items of a list from a place on. -/
  | forward (owner : Value) (place : Nat)
  /-- The items of a list before a place, the last one first. -/
  | backward (owner : Value) (place : Nat)
  /-- What a view shows of a dictionary of a size, from a place on, or before it in reverse. -/
  | entries (kind : ViewKind) (owner : Value) (size place : Nat) (reverse : Bool)
  /-- The items of a set of a size from a place on. -/
  | members (owner : Value) (size place : Nat)
  deriving Repr, Inhabited

namespace Traversal

/-- The items of a list by now. -/
def listItems (o : Objects) (owner : Value) : List Value :=
  match (o.look owner).bare with
  | .list xs => xs
  | _ => []

/-- The items of a set by now. -/
def setItems (o : Objects) (owner : Value) : List Value :=
  match (o.look owner).bare with
  | .set xs => xs
  | _ => []

/-- What a view shows of a dictionary by now. -/
def shown (o : Objects) (kind : ViewKind) (owner : Value) : List Value :=
  Value.viewItems kind (o.look owner)

/-- Go through a value from its start. -/
def start (o : Objects) (v : Value) : Outcome Traversal :=
  match (o.look v).bare, v with
  | .list xs, .object .. => .ok (if xs.isEmpty then .fixed [] else .forward v 0)
  | .dict ps, .object .. => .ok (.entries .keys v ps.length 0 false)
  | .set xs, .object .. => .ok (.members v xs.length 0)
  | .view kind owner, _ => .ok (.entries kind owner (shown o kind owner).length 0 false)
  | w, _ => do .ok (.fixed (<- w.items))

/-- Go through a list, a dictionary or a view of one from its end; `none` when a value has no such way. -/
def startBackward? (o : Objects) (v : Value) : Option Traversal :=
  match (o.look v).bare with
  | .list xs => some (.backward v xs.length)
  | .dict ps => some (.entries .keys v ps.length ps.length true)
  | .sealed ps => some (.entries .keys v ps.length ps.length true)
  | .view kind owner =>
      let size := (shown o kind owner).length
      some (.entries kind owner size size true)
  | _ => none

/-- The next item and what is left after it; `none` at the end. -/
def next (o : Objects) : Traversal -> Outcome (Option (Value × Traversal))
  | fixed [] => .ok none
  | fixed (x :: rest) => .ok (some (x, fixed rest))
  | forward owner place =>
      .ok ((listItems o owner)[place]?.map fun x => (x, forward owner (place + 1)))
  | backward _ 0 => .ok none
  | backward owner (place + 1) =>
      .ok ((listItems o owner)[place]?.map fun x => (x, backward owner place))
  | entries kind owner size place reverse =>
      let xs := shown o kind owner
      if xs.length != size then
        .error (.other "RuntimeError" "dictionary changed size during iteration")
      else if reverse then
        match place with
        | 0 => .ok none
        | n + 1 => .ok (xs[n]?.map fun x => (x, entries kind owner size n reverse))
      else .ok (xs[place]?.map fun x => (x, entries kind owner size (place + 1) reverse))
  | members owner size place =>
      let xs := setItems o owner
      if xs.length != size then
        .error (.other "RuntimeError" "Set changed size during iteration")
      else .ok (xs[place]?.map fun x => (x, members owner size (place + 1)))

/-- The number of items that are left, as far as is known before they are met. -/
def remaining (o : Objects) : Traversal -> Nat
  | fixed xs => xs.length
  | forward owner place => (listItems o owner).length - place
  | backward owner place => if (listItems o owner).length < place then 0 else place
  | entries _ _ size place reverse => if reverse then place else size - place
  | members _ size place => size - place

/-- All items that are left; the fuel bounds their number. -/
def drain (o : Objects) : Nat -> Traversal -> Outcome (List Value)
  | 0, _ => .ok []
  | fuel + 1, t => do
      match <- t.next o with
      | none => .ok []
      | some (x, rest) => do .ok (x :: (<- drain o fuel rest))

end Traversal

end Workflow
