import Workflow.Condition
import Workflow.Dispatch.Attempt
import Workflow.Dispatch.Deadline
import Workflow.Executor.Registry

/-!
# Dispatching steps

A step is dispatched by looking up the executor of its type, resolving the tokens of its
configuration, and invoking the executor under the step's timeout and policy.  A step
that chooses between branches dispatches the steps of one branch in the same way; they
see the same context, and only its own output shows what they gave.
-/

namespace Workflow

/-- What steps are dispatched with. -/
structure Dispatcher (σ : Type) where
  settings : Settings
  registry : Registry σ

/-- How a step ended. -/
structure StepOutcome where
  output : Value
  attempts : Int
  /-- The failure that was absorbed. -/
  failure : Option Error
  startedAt : DateTime
  finishedAt : DateTime

namespace StepOutcome

/-- Whether the step failed. -/
def failed (o : StepOutcome) : Bool :=
  o.failure.isSome

/-- How the step ended, in a word. -/
def status (o : StepOutcome) : String :=
  if o.failed then StepRecord.failed else StepRecord.completed

end StepOutcome

namespace Dispatcher

variable {σ : Type}

/-- The output of a step that chose a branch, with the outputs of the steps of the branch. -/
def branchOutput (chosen : Bool) : Option (List Value) -> Value
  | none => .record [("condition", .bool chosen), ("skipped", .bool true)]
  | some outputs => .record [("condition", .bool chosen), ("results", .list outputs)]

/-- Invoke the executor of a step; `choose` runs the branch for a truth value. -/
def invoke (h : Handler σ) (step : Step) (config : Value) (c : Context)
    (choose : List Float -> Bool -> Run σ (Option (List Value))) (deadlines : List Float) :
    Run σ Value := do
  let config <- Run.current config
  match h with
  | .builtin b => Run.changing (b.run step config c)
  | .plugin p => Deadline.invoke p step config c deadlines
  | .conditional => do
      let chosen <- Condition.decide c step.condition
      pure (branchOutput chosen (<- choose deadlines chosen))

/--
The configuration of a step with its tokens resolved in a context.  Only the executor sees
the configuration itself; what it holds may be changed by what the executor runs.
-/
def configOf (c : Context) (step : Step) : Run σ Value := do
  let scope <- Run.current (.dict c.scope)
  Run.ownParts (<- Run.resolving (Reference.resolve scope step.config))

/-- Run a step among open deadlines; `choose` runs the branch for a truth value. -/
def runStep (d : Dispatcher σ) (c : Context) (deadlines : List Float) (step : Step)
    (choose : List Float -> Bool -> Run σ (Option (List Value))) : Run σ StepOutcome := do
  let startedAt <- Run.now
  let handler <- Run.ofResult (d.registry.get step.type (some step.id))
  let config <- configOf c step
  let attempted <- Attempt.run d.settings step
    (Deadline.within step deadlines (invoke handler step config c choose))
  let output <- Run.own attempted.output
  pure ⟨output, attempted.attempts, attempted.failure, startedAt, <- Run.now⟩

mutual

/-- Dispatch a step among open deadlines. -/
def dispatchWithin (d : Dispatcher σ) (c : Context) (deadlines : List Float) :
    Step -> Run σ StepOutcome
  | ⟨id, type, description, config, onError, retry, timeout, condition, ifTrue, ifFalse, extra⟩ =>
      runStep d c deadlines
        ⟨id, type, description, config, onError, retry, timeout, condition, ifTrue, ifFalse, extra⟩
        fun deadlines chosen =>
          if chosen then dispatchBranch d c deadlines ifTrue
          else dispatchBranch d c deadlines ifFalse
termination_by structural s => s

/-- Dispatch the steps of a branch, if there is one; their outputs in order. -/
def dispatchBranch (d : Dispatcher σ) (c : Context) (deadlines : List Float) :
    Option (List Step) -> Run σ (Option (List Value))
  | none => pure none
  | some steps => do pure (some (<- dispatchAll d c deadlines steps))
termination_by structural b => b

/-- Dispatch steps one after another; their outputs in order. -/
def dispatchAll (d : Dispatcher σ) (c : Context) (deadlines : List Float) :
    List Step -> Run σ (List Value)
  | [] => pure []
  | s :: rest => do
      let outcome <- dispatchWithin d c deadlines s
      pure (outcome.output :: (<- dispatchAll d c deadlines rest))
termination_by structural l => l

end

/-- Dispatch a step in a context, which is not changed. -/
def dispatch (d : Dispatcher σ) (c : Context) (step : Step) : Run σ StepOutcome :=
  dispatchWithin d c [] step

end Dispatcher

end Workflow
