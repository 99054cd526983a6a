import Workflow.Template.Evaluation
import Workflow.Error

/-!
# Rendering templates

The text of a template among variables, with failures as errors of the engine.
-/

namespace Workflow

namespace Template

/-- The bound on the depth of calls of a rendering, which grows with the number of statements. -/
def renderFuel (source : String) : Nat := 10000000 + source.length

/-- Read a source as a template whose blocks, filters and loops are sound. -/
def compile (source : String) : Except SourceFault (List Statement) := do
  let body <- read source
  check (source.length + 8) body
  .ok body

/-- Variables with marks for what can be changed in them. -/
def ownVariables : List (String × Value) -> Action (List (String × Value))
  | [] => pure []
  | (name, v) :: rest => do
      let v <- Action.own v
      pure ((name, v) :: (<- ownVariables rest))

/-- The variables that a template sees; it is itself what it calls `self`. -/
def seenVariables (values : List (String × Value)) : List (String × Value) :=
  values.filter fun (name, _) => name != "self"

/-- The text of a template among variables. -/
def renderBody (source : String) (values : List (String × Value)) (body : List Statement) :
    Action String := do
  let values <- ownVariables values
  let s : Surroundings := ⟨[1, 0], false, blocksOf (source.length + 8) body, 0, .null⟩
  fun o =>
    match evalBody s (renderFuel source) body "" ⟨#[seenVariables values, []], #[], o⟩ with
    | .ok out m => .ok out m.objects
    | .error f m => .error f m.objects

/-- The last of the parts of a text that stand in quotes. -/
def lastQuoted (text : String) : String :=
  let parts := Text.splitAll ['\''] text.length text.toList
  let quoted := (parts.zipIdx.filter fun (_, i) => i % 2 == 1).map (·.1)
  match quoted.getLast? with
  | some name => String.ofList name
  | none => "unknown"

/-- The error of a source that is not a template. -/
def sourceError (f : SourceFault) : Error :=
  let complaint := f.complaint.getD "invalid template"
  Error.template s!"Template syntax error at line {f.line}: {complaint}" none none

/-- The error of a rendering that failed. -/
def renderError (f : Fault) : Error :=
  match f.name with
  | "SecurityError" =>
      Error.template s!"Template accessed a restricted attribute: {f.message}"
        (some "Templates may only read values from the execution scope") none
  | "UndefinedError" =>
      Error.template s!"Undefined variable in template: {f.message}" none
        (some (lastQuoted f.message))
  | name => Error.template s!"Template rendering failed: {name}: {f.message}" none none

/-- Render a source among variables; what the template changes in them is changed where it is shared. -/
def render (source : String) (values : List (String × Value)) : EStateM Error Objects String :=
  fun o =>
    match compile source with
    | .error f => .error (sourceError f) o
    | .ok body =>
        match renderBody source values body o with
        | .ok out o => .ok out o
        | .error f o => .error (renderError f) o

end Template

end Workflow
