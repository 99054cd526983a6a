import Workflow.Context
import Workflow.Expression
import Workflow.Reference.Binding
import Workflow.World

/-!
# Conditions

A truth value decides itself, a text is an expression over the inputs and the recorded
steps, and any other value counts by whether it is empty.  A condition that refers to
something that does not exist is false, and the log says so.
-/

namespace Workflow

namespace Condition

/-- The error of a step without a condition. -/
def lacking : Error :=
  Error.expression "Conditional step has no condition"
    (some "Add a 'condition' expression to the step") none false

/-- The error of a blank condition. -/
def blank (text : String) : Error :=
  Error.expression "Condition is empty" none (some text) false

/-- The warning on a condition that refers to something that does not exist. -/
def missingWarning (text reason : String) : String :=
  s!"Condition '{text}' references a missing value, treating it as false: {reason}"

/-- Names bound over a scope. -/
def bindOver (scope : List (Value × Value)) (values : List (String × Value)) :
    List (Value × Value) :=
  Context.overlay scope values

/-- Decide an expression whose tokens were bound. -/
def decideBound {σ : Type} (text : String) (scope : List (Value × Value))
    (b : Reference.Bound) : Run σ Bool :=
  match b.missing with
  | [] => do
      let scope := bindOver scope b.values
      match <- Run.tried (Expression.evaluateBool (String.ofList b.text) scope) with
      | .ok answer => pure answer
      | .error e =>
          if e.isMissingReference then do
            Run.warn (missingWarning text e.message)
            pure false
          else Run.fail e
  | paths => do
      Run.warn (missingWarning text (", ".intercalate paths))
      pure false

/-- Decide a condition in a context. -/
def decide {σ : Type} (c : Context) (condition : Value) : Run σ Bool :=
  match condition with
  | .bool b => pure b
  | .null => Run.fail lacking
  | .str text =>
      if (Text.strip text).isEmpty then Run.fail (blank text)
      else do
        let c := c.current (<- get).objects
        let scope := c.conditionScope
        let reserved := scope.filterMap fun (k, _) => k.asText?
        let b <- Run.resolving (Reference.bind (.dict c.scope) reserved text)
        decideBound text scope b
  | v => pure v.truthy

end Condition

end Workflow
