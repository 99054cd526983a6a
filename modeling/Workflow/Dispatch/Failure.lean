import Workflow.Definition.Basic
import Workflow.Error

/-!
# Failures of steps

Whatever an executor raises becomes an error of the engine that names the step.
Cancellation, and a step of a type without executor, are no failures of a step: no
policy applies to them.
-/

namespace Workflow

namespace Failure

/-- A value, or a text where nothing is known. -/
def known (v : Value) (text : String) : Value :=
  if v.isNull then .str text else v

/-- An error with the step filled in where it is missing, and the number of the attempt. -/
def assign (step : Step) (attempt : Int) (e : Error) : Error :=
  let kind := match e.kind.executor? with
    | none => e.kind
    | some f =>
        e.kind.withExecutor
          { f with stepType := known f.stepType step.type, attempts := .int attempt }
  { e with kind, stepId := known e.stepId step.id }

/-- The error that wraps a fault. -/
def wrap (step : Step) (attempt : Int) (f : Fault) : Error :=
  let name := f.name
  let message := f.message
  Error.executor s!"Step '{step.id}' ({step.type}) failed: {name}: {message}" none (some step.id)
    ⟨.str step.type, .failure name message, .int attempt⟩

/-- The error of the engine for what an executor raised; `none` when no policy applies. -/
def classify? (step : Step) (attempt : Int) : Raised -> Option Error
  | .cancelled => none
  | .error e => if e.isUnknownStepType then none else some (assign step attempt e)
  | .fault f => some (wrap step attempt f)

/-- What the output of an absorbed failure says: the executor's own message when it was wrapped. -/
def shownMessage (e : Error) : String :=
  ((e.kind.executor?.bind fun f => f.original.text?)).getD e.message

/-- The output of a step whose failure was absorbed. -/
def output (e : Error) : Value :=
  .record [("error", .str (shownMessage e)), ("status", .str "failed")]

/-- The error of a step that did not end in time. -/
def timedOut (step : Step) (seconds : Float) : Error :=
  let shown := Error.secondsText (.float seconds)
  Error.timeout s!"Step '{step.id}' timed out after {shown}s" (.float seconds) (some step.id)
    (some step.type)

end Failure

end Workflow
