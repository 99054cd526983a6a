import Workflow.Value.Access
import Workflow.Value.SetOrder

/-!
# Arguments of calls

Positional and named arguments, and the checks functions and methods make on them.
-/

namespace Workflow

namespace Value

/-- The arguments of a call. -/
structure Arguments where
  positional : List Value
  named : List (String × Value)

namespace Arguments

/-- Positional arguments only. -/
def of (positional : List Value) : Arguments :=
  ⟨positional, []⟩

/-- The argument at a position or under a name. -/
def at? (a : Arguments) (place : Nat) (name : String) : Option Value :=
  (a.positional[place]?).orElse fun _ => a.named.lookup name

/-- `1 argument`, `2 arguments`. -/
def plural (n : Nat) (word : String) : String :=
  if n = 1 then s!"{n} {word}" else s!"{n} {word}s"

/-- Refuse named arguments. -/
def positionalOnly (a : Arguments) (full : String) : Outcome Unit :=
  if a.named.isEmpty then .ok ()
  else .error (.badArgument s!"{full}() takes no keyword arguments")

/-- Refuse named arguments that are given by position, or that none of the names calls for. -/
def onlyNamed (a : Arguments) (name : String) (names : List String) : Outcome Unit :=
  match (names.zipIdx.take a.positional.length).find? fun (n, _) => (a.named.lookup n).isSome with
  | some (n, place) =>
      .error (.badArgument
        s!"argument for {name}() given by name ('{n}') and position ({place + 1})")
  | none =>
      match a.named.find? fun (n, _) => !names.contains n with
      | none => .ok ()
      | some (n, _) =>
          .error (.badArgument s!"'{n}' is an invalid keyword argument for {name}()")

/-- No arguments at all. -/
def nothing (a : Arguments) (full : String) : Outcome Unit := do
  a.positionalOnly full
  if a.positional.isEmpty then .ok ()
  else .error (.badArgument s!"{full}() takes no arguments ({a.positional.length} given)")

/-- Exactly one argument. -/
def one (a : Arguments) (full : String) : Outcome Value := do
  a.positionalOnly full
  match a.positional with
  | [x] => .ok x
  | xs => .error (.badArgument s!"{full}() takes exactly one argument ({xs.length} given)")

/-- From `low` to `high` positional arguments. -/
def between (a : Arguments) (full name : String) (low high : Nat) : Outcome (List Value) := do
  a.positionalOnly full
  let n := a.positional.length
  let complain (word : String) (k : Nat) : Outcome (List Value) :=
    let expected := plural k "argument"
    .error (.badArgument s!"{name} expected {word}{expected}, got {n}")
  if low = high && n != low then complain "" low
  else if n < low then complain "at least " low
  else if high < n then complain "at most " high
  else .ok a.positional

/-- At most `high` arguments, named ones included. -/
def atMost (a : Arguments) (name : String) (high : Nat) : Outcome Unit :=
  let n := a.positional.length + a.named.length
  if n ≤ high then .ok ()
  else
    let expected := plural high "argument"
    .error (.badArgument s!"{name}() takes at most {expected} ({n} given)")

end Arguments

/-- What an argument of a wrong type is called: nothing is called by its own name. -/
def argumentKind (v : Value) : String :=
  if v.isNull then "None" else v.kind

/-- An argument that must be an integer. -/
def indexArgument (v : Value) : Outcome Int :=
  match v.asInt? with
  | some n => .ok n
  | none => .error (.badArgument s!"'{v.kind}' object cannot be interpreted as an integer")

/-- An argument that says how many items or characters something has. -/
def sizeArgument (v : Value) : Outcome Int := do
  let n <- indexArgument v
  checkSize n (.overflow "Python int too large to convert to C ssize_t")
  .ok n

/-- An argument that must be a small integer. -/
def smallArgument (v : Value) : Outcome Int := do
  let n <- indexArgument v
  if 2147483647 < n || n < -2147483648 then
    .error (.overflow "Python int too large to convert to C int")
  else .ok n

/-- A switch, which is given as an integer. -/
def flagArgument (v : Value) : Outcome Bool := do
  .ok ((<- smallArgument v) != 0)

/-- An argument that must be a text. -/
def textArgument (v : Value) : Outcome String :=
  match v.asText? with
  | some s => .ok s
  | none => .error (.badArgument s!"must be str, not {v.kind}")

end Value

end Workflow
