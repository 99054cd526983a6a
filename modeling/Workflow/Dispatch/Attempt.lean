import Workflow.Dispatch.Backoff
import Workflow.Dispatch.Failure
import Workflow.World

/-!
# Attempts

The executor of a step is invoked again after a failure until it gives a value or no
attempt is left.  Then the policy of the step decides whether the failure is raised or
absorbed.
-/

namespace Workflow

/-- What the attempts at a step came to. -/
structure Attempted where
  output : Value
  /-- How often the executor was invoked. -/
  attempts : Int
  /-- The failure that was absorbed. -/
  failure : Option Error

namespace Attempt

variable {σ α : Type}

/-- The line that is logged before the executor is invoked again. -/
def retryLine (step : Step) (attempt max : Int) (delay : Float) (r : Raised) (e : Error) :
    String :=
  let wait := Backoff.delayText delay
  let cause := r.name
  s!"[Retry {attempt}/{max}] Step '{step.id}' retrying after {wait}s due to {cause}: {e.message}"

/-- The end of the last attempt, which failed. -/
def settle (step : Step) (max attempt : Int) (e : Error) : Run σ Attempted :=
  match step.onError with
  | .proceed => do
      Run.warn s!"Step '{step.id}' failed, continuing: {e.message}"
      pure ⟨Failure.output e, attempt, some e⟩
  | _ => do
      if 1 < max then
        Run.complain s!"Step '{step.id}' failed after {attempt} attempts: {e.message}"
      Run.fail e

/-- Invoke once; a failure that a policy applies to goes on, anything else is raised. -/
def once (step : Step) (attempt : Int) (invoke : Run σ Value)
    (onFailure : Raised -> Error -> Run σ Attempted) : Run σ Attempted := do
  match <- Run.attempt invoke with
  | .ok v => pure ⟨v, attempt, none⟩
  | .error r =>
      match Failure.classify? step attempt r with
      | none => throw r
      | some e => onFailure r e

/-- Wait for the delay after an attempt that failed. -/
def pause (s : Settings) (step : Step) (max attempt : Int) (r : Raised) (e : Error) :
    Run σ Unit := do
  let delay <- Run.ofOutcome (Backoff.delay s (<- get).chance step.retry attempt)
  Run.warn (retryLine step attempt max delay r e)
  Run.wait delay

/-- Invoke as attempt number `attempt`, with so many attempts left after it. -/
def startingAt (s : Settings) (step : Step) (max : Int) (invoke : Run σ Value) :
    Nat -> Int -> Run σ Attempted
  | 0, attempt => once step attempt invoke fun _ e => settle step max attempt e
  | left + 1, attempt =>
      once step attempt invoke fun r e => do
        pause s step max attempt r e
        startingAt s step max invoke left (attempt + 1)

/-- Invoke until a value is given or no attempt is left. -/
def run (s : Settings) (step : Step) (invoke : Run σ Value) : Run σ Attempted :=
  let max := Backoff.maxAttempts s step
  startingAt s step max invoke (max - 1).toNat 1

end Attempt

end Workflow
