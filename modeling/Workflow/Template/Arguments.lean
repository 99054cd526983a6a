import Workflow.Value.Arguments

/-!
# Arguments of filters

Filters take arguments by position or by name; leaving out one that is required, or
giving one too many, is a fault.
-/

namespace Workflow

namespace Template

/-- The parameters of a filter or a test. -/
structure Signature where
  /-- The name it is known by in complaints. -/
  name : String
  /-- How many arguments come before those a template gives, the subject included. -/
  hidden : Nat
  required : List String
  optional : List String

namespace Signature

/-- The fault of too many arguments. -/
def tooMany (s : Signature) (given : Nat) : Fault :=
  let least := s.hidden + s.required.length
  let most := least + s.optional.length
  let count := s.hidden + given
  let takes := if least = most then s!"takes {most}" else s!"takes from {least} to {most}"
  let noun := if least = most && most = 1 then "argument" else "arguments"
  let verb := if count = 1 then "was" else "were"
  .badArgument s!"{s.name}() {takes} positional {noun} but {count} {verb} given"

/-- The fault of arguments that are left out. -/
def lacking (s : Signature) (names : List String) : Fault :=
  let quoted := names.map fun n => s!"'{n}'"
  let listed := match quoted with
    | [a, b] => s!"{a} and {b}"
    | qs => ", ".intercalate qs
  let noun := if names.length = 1 then "argument" else "arguments"
  .badArgument s!"{s.name}() missing {names.length} required positional {noun}: {listed}"

/-- The arguments in the order of the parameters; `none` for one that is left out. -/
def bind (s : Signature) (a : Value.Arguments) : Outcome (List (Option Value)) := do
  let names := s.required ++ s.optional
  if names.length < a.positional.length then .error (s.tooMany a.positional.length)
  match a.named.find? fun (n, _) => !names.contains n with
  | some (n, _) => .error (.badArgument s!"{s.name}() got an unexpected keyword argument '{n}'")
  | none => pure ()
  match (names.take a.positional.length).find? fun n => (a.named.lookup n).isSome with
  | some n => .error (.badArgument s!"{s.name}() got multiple values for argument '{n}'")
  | none => pure ()
  let values := names.zipIdx.map fun (n, i) =>
    (a.positional[i]?).orElse fun _ => a.named.lookup n
  let missing := (s.required.zip values).filter fun (_, v) => v.isNone
  if missing.isEmpty then .ok values else .error (s.lacking (missing.map (·.1)))

end Signature

/-- The value at a place among bound arguments, or a default. -/
def argument (values : List (Option Value)) (place : Nat) (default : Value) : Value :=
  ((values[place]?).bind id).getD default

end Template

end Workflow
