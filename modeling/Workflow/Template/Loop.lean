import Workflow.Template.Stream

/-!
# Loops

A loop takes its items one after another.  It looks ahead only when it is asked about
the item after the current one, and counts the items only when it is asked how many
there are.
-/

namespace Workflow

namespace Template

/-- Where the loop in a cell stands. -/
def loopAt? (place : Nat) : Render (Option LoopState) := do
  match (<- get).cells[place]? with
  | some (.loop l) => pure (some l)
  | _ => pure none

/-- A loop that has not begun. -/
def LoopState.start (source : Value) (left : Course) (depth : Nat) (again : Option LoopBody) :
    LoopState :=
  ⟨source, left, 0, none, none, .null, .null, depth, none, again⟩

/-- Take the next item of a loop, unless it is at its end. -/
def takeItem (judge : Judge) (escaping : Bool) (fuel : Nat) (place : Nat) (l : LoopState) :
    Render (Option Value) := do
  let (x?, left) <- match l.after with
    | some x => pure (some x, l.left)
    | none => nextOf judge escaping fuel l.left
  match x? with
  | none => pure none
  | some x => do
      let started := l.started + 1
      putCell place (.loop { l with left, started, after := none, before := l.current, current := x })
      pure (some x)

/-- The item after the current one, which the loop keeps for its next turn. -/
def peek (judge : Judge) (escaping : Bool) (fuel : Nat) (place : Nat) (l : LoopState) :
    Render (Option Value) := do
  match l.after with
  | some x => pure (some x)
  | none => do
      let (after, left) <- nextOf judge escaping fuel l.left
      putCell place (.loop { l with left, after })
      pure after

/-- The number of items of a loop; what has no length of its own is gone through to count it. -/
def countItems (judge : Judge) (escaping : Bool) (fuel : Nat) (place : Nat) (l : LoopState) :
    Render Nat := do
  match l.length, (<- look l.source).length with
  | some n, _ => pure n
  | none, .ok n => do
      putCell place (.loop { l with length := some n })
      pure n
  | none, .error _ => do
      let rest <- drainFrom judge escaping fuel [] l.left
      let n := rest.length + l.started + (if l.after.isSome then 1 else 0)
      putCell place (.loop { l with left := .values (.fixed rest), length := some n })
      pure n

/-- The part of a loop under a name. -/
def loopPart (judge : Judge) (escaping : Bool) (fuel : Nat) (place : Nat) (l : LoopState)
    (name : String) : Render Value := do
  let v : Value := .slot .loop place
  let count : Render Nat := countItems judge escaping fuel place l
  match name with
  | "index" => pure (.int l.started)
  | "index0" => pure (.int ((l.started : Int) - 1))
  | "revindex" => do pure (.int (((<- count) : Nat) - (l.started : Int) + 1))
  | "revindex0" => do pure (.int (((<- count) : Nat) - (l.started : Int)))
  | "first" => pure (.bool (l.started == 1))
  | "last" => do pure (.bool (<- peek judge escaping fuel place l).isNone)
  | "length" => do pure (.int ((<- count) : Nat))
  | "depth" => pure (.int (l.depth + 1 : Nat))
  | "depth0" => pure (.int l.depth)
  | "previtem" =>
      pure (if l.started = 1 then .undefined "there is no previous item" .strict else l.before)
  | "nextitem" => do
      pure ((<- peek judge escaping fuel place l).getD
        (.undefined "there is no next item" .strict))
  | "cycle" => pure (.method v name)
  | "changed" => pure (.method v name)
  | name => pure (if hasHidden v name then restrictedPart v name else noPart v name)

/-- The part of a value under a name. -/
def partOf (judge : Judge) (escaping : Bool) (fuel : Nat) (v : Value) (name : String) :
    Render Value := do
  match v with
  | .slot .loop place =>
      match <- loopAt? place with
      | some l => loopPart judge escaping fuel place l name
      | none => plainPart v name
  | v => plainPart v name

/-- The part of a value under a key. -/
def itemIn (judge : Judge) (escaping : Bool) (fuel : Nat) (v key : Value) : Render Value := do
  match v, key.asText? with
  | .slot _ _, some name => partOf judge escaping fuel v name
  | v, _ => do
      let v <- look v
      let key <- current key
      make (partByKey v key)

/-- The text that is printed for a value. -/
def printed (judge : Judge) (escaping : Bool) (fuel : Nat) (v : Value) : Render String := do
  match v with
  | .slot .loop place =>
      match <- loopAt? place with
      | some l => do
          let n <- countItems judge escaping fuel place l
          pure s!"<LoopContext {l.started}/{n}>"
      | none => pure ""
  | v => plainPrinted escaping v

end Template

end Workflow
