import Workflow.Expr.Evaluation
import Workflow.Error

/-!
# Expressions in texts

Evaluating the text of an expression, with failures as errors of the engine.
-/

namespace Workflow

namespace Expression

/-- The error of an expression that failed. -/
def errorOf (source : String) (f : Expr.Failure) : Error :=
  Error.expression (f.message source) none (some source) f.isMissing

/-- The value of an expression in a scope of names; values of the scope are changed where they are shared. -/
def evaluate (source : String) (scope : List (Value × Value)) : EStateM Error Objects Value :=
  fun o =>
    match Expr.evaluate source scope o with
    | .ok v o => .ok v o
    | .error f o => .error (errorOf source f) o

/-- Whether the value of an expression counts as true. -/
def evaluateBool (source : String) (scope : List (Value × Value)) : EStateM Error Objects Bool := do
  pure (<- evaluate source scope).truthy

end Expression

end Workflow
