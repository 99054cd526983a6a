import Workflow.Value.Basic
import Workflow.Fault

/-!
# Changeable values

Lists, dictionaries and sets can be changed while they are shared.  Each of them has a
mark, and a store of changes says what the ones that were changed hold by now; a value
carries what it held when it was last looked at, and looking at it again brings it up
to date.
-/

namespace Workflow

/-- The marks given so far, and what the changed values hold by now. -/
structure Objects where
  /-- The number of the next mark. -/
  next : Nat
  /-- The number of the next mark of a value that a caller added. -/
  nextAdded : Nat
  changes : List (Mark × Value)
  deriving Repr, Inhabited

namespace Objects

/-- No value has a mark yet. -/
def empty : Objects := ⟨0, 0, []⟩

/-- What a changed value holds by now. -/
def current? (o : Objects) (m : Mark) : Option Value :=
  o.changes.lookup m

/-- Let a value hold something else. -/
def put (o : Objects) (m : Mark) (content : Value) : Objects :=
  { o with changes := (m, content) :: o.changes.filter fun (n, _) => n != m }

theorem current?_put_self (o : Objects) (m : Mark) (content : Value) :
    (o.put m content).current? m = some content := by
  simp [put, current?]

/-- A value with what it holds by now; what it holds is not looked into. -/
def look (o : Objects) : Value -> Value
  | .object m old => .object m ((o.current? m).getD old)
  | v => v

/-- The depth to which values are looked into. -/
def maxDepth : Nat := 100000

/--
A value with all that it holds by now.  `path` has the marks of the values around it:
one that holds itself is not looked into again.
-/
def refreshWithin (o : Objects) : Nat -> List Mark -> Value -> Value
  | 0, _, v => v
  | depth + 1, path, v =>
      let go := refreshWithin o depth path
      match v with
      | .object m old =>
          if path.contains m then .object m (.foreign old.kind)
          else .object m (refreshWithin o depth (m :: path) ((o.current? m).getD old))
      | .list xs => .list (xs.map go)
      | .tuple xs => .tuple (xs.map go)
      | .set xs => .set (xs.map go)
      | .dict entries => .dict (entries.map fun (k, w) => (go k, go w))
      | .view kind owner => .view kind (go owner)
      | .method receiver name => .method (go receiver) name
      | v => v

/-- A value with all that it holds by now. -/
def refresh (o : Objects) (v : Value) : Value :=
  if o.changes.isEmpty then v else refreshWithin o maxDepth [] v

theorem refresh_of_unchanged {o : Objects} (h : o.changes = []) (v : Value) : o.refresh v = v := by
  simp [refresh, h]

/-- What a value holds by now depends on the changes alone. -/
theorem refresh_of_same_changes {o other : Objects} (h : o.changes = other.changes) (v : Value) :
    o.refresh v = other.refresh v := by
  have within (depth : Nat) : o.refreshWithin depth = other.refreshWithin depth := by
    induction depth with
    | zero => rfl
    | succ depth ih =>
        funext path v
        cases v <;> simp only [refreshWithin, ih, current?, h]
  simp only [refresh, h, within]

mutual

/-- Give marks to the changeable values in a value, from a number on. -/
def markFrom (added : Bool) (v : Value) (n : Nat) : Value × Nat :=
  match v with
  | .list xs =>
      let (xs, n) := markAll added xs n
      (.object ⟨added, n⟩ (.list xs), n + 1)
  | .dict entries =>
      let (entries, n) := markEntries added entries n
      (.object ⟨added, n⟩ (.dict entries), n + 1)
  | .set xs => (.object ⟨added, n⟩ (.set xs), n + 1)
  | .tuple xs =>
      let (xs, n) := markAll added xs n
      (.tuple xs, n)
  | .float x => if x.isNaN then (.object ⟨added, n⟩ (.float x), n + 1) else (.float x, n)
  | v => (v, n)

/-- Give marks to the changeable values among items. -/
def markAll (added : Bool) (xs : List Value) (n : Nat) : List Value × Nat :=
  match xs with
  | [] => ([], n)
  | x :: rest =>
      let (x, n) := markFrom added x n
      let (rest, n) := markAll added rest n
      (x :: rest, n)

/-- Give marks to the changeable values among entries; keys cannot be changed. -/
def markEntries (added : Bool) (entries : List (Value × Value)) (n : Nat) :
    List (Value × Value) × Nat :=
  match entries with
  | [] => ([], n)
  | (k, v) :: rest =>
      let (k, n) := markFrom added k n
      let (v, n) := markFrom added v n
      let (rest, n) := markEntries added rest n
      ((k, v) :: rest, n)

end

/-- Give marks to the changeable values in a value that have none. -/
def adopt (o : Objects) (v : Value) : Value × Objects :=
  let (v, next) := markFrom false v o.next
  (v, { o with next })

/-- Give marks to the changeable values in a value that have none, but not to the value itself. -/
def adoptParts (o : Objects) (v : Value) : Value × Objects :=
  match v with
  | .list xs =>
      let (xs, next) := markAll false xs o.next
      (.list xs, { o with next })
  | .dict entries =>
      let (entries, next) := markEntries false entries o.next
      (.dict entries, { o with next })
  | .tuple xs =>
      let (xs, next) := markAll false xs o.next
      (.tuple xs, { o with next })
  | v => (v, o)

/-- Give marks to the changeable values of entries that a caller added. -/
def adoptAddedEntries (o : Objects) (entries : List (Value × Value)) :
    List (Value × Value) × Objects :=
  let (entries, nextAdded) := markEntries true entries o.nextAdded
  (entries, { o with nextAdded })

end Objects

mutual

/-- A value as data, without marks. -/
def Value.unmarked : Value -> Value
  | .object _ content => unmarked content
  | .list xs => .list (unmarkedAll xs)
  | .tuple xs => .tuple (unmarkedAll xs)
  | .set xs => .set (unmarkedAll xs)
  | .dict entries => .dict (unmarkedEntries entries)
  | .sealed entries => .sealed (unmarkedEntries entries)
  | .view kind owner => .view kind (unmarked owner)
  | v => v

/-- Items as data, without marks. -/
def Value.unmarkedAll : List Value -> List Value
  | [] => []
  | x :: rest => unmarked x :: unmarkedAll rest

/-- Entries as data, without marks. -/
def Value.unmarkedEntries : List (Value × Value) -> List (Value × Value)
  | [] => []
  | (k, v) :: rest => (unmarked k, unmarked v) :: unmarkedEntries rest

end

/-- What reads and changes values that can be changed, and may fail. -/
abbrev Action := EStateM Fault Objects

namespace Action

/-- The outcome of an operation that changes nothing. -/
def of (r : Outcome α) : Action α :=
  match r with
  | .ok x => pure x
  | .error f => throw f

/-- A value with all that it holds by now. -/
def current (v : Value) : Action Value := do
  pure ((<- get).refresh v)

/-- A value with what it holds by now, which is not looked into. -/
def look (v : Value) : Action Value := do
  pure ((<- get).look v)

/-- A new value, with marks for what can be changed in it. -/
def own (v : Value) : Action Value := fun o =>
  let (v, o) := o.adopt v
  .ok v o

/-- The result of an operation that changes nothing, as a new value. -/
def make (r : Outcome Value) : Action Value := do
  own (<- of r)

/-- Let a changeable value hold something else; nothing happens to one without a mark. -/
def change (owner content : Value) : Action Unit :=
  match owner.mark? with
  | some m => modify (·.put m content)
  | none => pure ()

end Action

end Workflow
