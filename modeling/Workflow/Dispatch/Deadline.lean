import Workflow.Dispatch.Failure
import Workflow.Executor.Basic
import Workflow.World

/-!
# Deadlines

A step with a timeout must end before its deadline.  Of several deadlines that are open
at once the earliest one runs out first, and of equal ones the outermost.  What runs
inside is then cancelled, and the step of that deadline has timed out.
-/

namespace Workflow

namespace Deadline

/-- The earliest of the open deadlines, the outermost one first, with its place. -/
def earliest? : List Float -> Option (Nat × Float)
  | [] => none
  | d :: rest =>
      match earliest? rest with
      | none => some (0, d)
      | some (place, e) => if e < d then some (place + 1, e) else some (0, d)

/-- The world in which an invocation without end was cut off at the earliest deadline. -/
def cutOff {σ : Type} (w : World σ) (deadlines : List Float) : World σ :=
  match earliest? deadlines with
  | none => w
  | some (place, deadline) => { w with elapsed := deadline, expired := some place }

/-- Invoke an executor from outside among open deadlines. -/
def invoke {σ : Type} (p : Plugin σ) (step : Step) (config : Value) (c : Context)
    (deadlines : List Float) : Run σ Value := fun w =>
  let (ending, executors) := p.invoke step config (c.current w.objects) w.executors
  let w := { w with executors }
  match ending with
  | .value v => .ok v w
  | .raised r => .error r w
  | .endless => .error .cancelled (cutOff w deadlines)

/-- Whether something raised says of itself that time ran out. -/
def saysTimeout : Raised -> Bool
  | .fault f => f.name == "TimeoutError"
  | _ => false

/-- Run a step, inside its own deadline when it has a timeout. -/
def within {σ : Type} (step : Step) (deadlines : List Float) (run : List Float -> Run σ Value) :
    Run σ Value :=
  match step.timeout with
  | none => run deadlines
  | some seconds => fun w =>
      match run (deadlines ++ [w.elapsed + seconds]) w with
      | .ok v w => .ok v w
      | .error r w =>
          if w.expired == some deadlines.length then
            .error (.error (Failure.timedOut step seconds)) { w with expired := none }
          else if saysTimeout r then .error (.error (Failure.timedOut step seconds)) w
          else .error r w

end Deadline

end Workflow
