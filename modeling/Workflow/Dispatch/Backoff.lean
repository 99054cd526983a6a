import Workflow.Definition.Basic
import Workflow.Settings
import Workflow.Value.Arithmetic

/-!
# Delays between invocations

Each delay is the one before it times the backoff, up to a longest delay, and chance
adds a part of it on top.
-/

namespace Workflow

namespace Backoff

/-- How often the executor of a step is invoked at most. -/
def maxAttempts (s : Settings) (step : Step) : Int :=
  match step.onError, step.retry with
  | .retry, some policy => policy.attempts
  | .retry, none => s.defaultRetryAttempts
  | _, _ => 1

/-- The factor between two delays when a step does not say. -/
def standardBackoff : Float := 2.0

/-- The fault of a power that is too large to represent. -/
def tooLarge : Fault :=
  .overflow "(34, 'Numerical result out of range')"

/-- Whether a double that is one at least is too large to represent when it is raised. -/
def overflows (base : Float) (n : Nat) : Bool :=
  match Number.Binary.ofFloat base with
  | .finite _ mantissa exponent => Number.powerOverflows mantissa exponent n
  | _ => false

/--
A double raised to a whole number, which may be too large to represent.  Up to the exponent with
which the powers of two end this is decided exactly; beyond it no double that is two at least has
a power.
-/
def power (base : Float) (n : Int) : Outcome Float := do
  let exponent <- Value.floatOfInt n
  if 1.0 ≤ base ∧ 0 ≤ n ∧ n ≤ 1024 then
    if overflows base n.toNat then .error tooLarge else .ok (Float.pow base exponent)
  else if 2.0 ≤ base ∧ base.isFinite ∧ 1024 < n then
    .error tooLarge
  else
    match <- Value.floatPow base exponent with
    | .float x => .ok x
    | _ => .ok 0.0

/-- The delay after an attempt, before chance adds to it. -/
def plainDelay (s : Settings) (retry : Option RetryPolicy) (attempt : Int) : Outcome Float := do
  let base := (retry.bind (·.delay)).getD s.retryBaseDelay
  let longest := (retry.bind (·.maxDelay)).getD s.retryMaxDelay
  let backoff := (retry.map (·.backoff)).getD standardBackoff
  let delay := base * (<- power backoff (attempt - 1))
  .ok (if longest < delay then longest else delay)

/-- The delay after an attempt, the first one being attempt one. -/
def delay (s : Settings) (chance : Float) (retry : Option RetryPolicy) (attempt : Int) :
    Outcome Float := do
  let plain <- plainDelay s retry attempt
  .ok (if 0.0 < s.retryJitter then plain + plain * s.retryJitter * chance else plain)

/-- A delay in seconds with two places. -/
def delayText (delay : Float) : String :=
  match Value.format (.float delay) ".2f" with
  | .ok s => s
  | .error _ => (Value.float delay).text

end Backoff

end Workflow
