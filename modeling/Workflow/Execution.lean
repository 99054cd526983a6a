import Workflow.Definition.Record
import Workflow.Value.Text

/-!
# Records of executions

An execution starts running and ends completed or failed.  Its record holds what went
in, what came out, and how each of its steps ended.
-/

namespace Workflow

/-- Where an execution stands. -/
inductive ExecutionStatus where
  | running
  | completed
  | failed
  deriving Repr, DecidableEq

namespace ExecutionStatus

/-- The word for a status. -/
def name : ExecutionStatus -> String
  | running => "running"
  | completed => "completed"
  | failed => "failed"

/-- Whether an execution has ended. -/
def finished (s : ExecutionStatus) : Bool :=
  s != running

end ExecutionStatus

/-- Seconds between two moments. -/
def secondsBetween (start finish : DateTime) : Float :=
  Float.ofInt (finish.utcMicroseconds - start.utcMicroseconds) / 1000000.0

/-- How a step of an execution ended. -/
structure StepResult where
  stepId : String
  stepType : String
  /-- How the step ended, in a word. -/
  status : String
  output : Value
  /-- How often the executor was invoked. -/
  attempts : Int
  startedAt : DateTime
  finishedAt : DateTime
  deriving Repr

namespace StepResult

/-- How long the step took, in seconds. -/
def duration (r : StepResult) : Float :=
  secondsBetween r.startedAt r.finishedAt

/-- The fields of a result. -/
def toValue (r : StepResult) : Value :=
  .record [("step_id", .str r.stepId), ("step_type", .str r.stepType), ("status", .str r.status),
    ("output", r.output), ("attempts", .int r.attempts),
    ("started_at", .str r.startedAt.isoText), ("finished_at", .str r.finishedAt.isoText),
    ("duration", .float r.duration)]

end StepResult

/-- Why an execution failed. -/
structure FailureNote where
  message : Value
  /-- The id of the step that failed, when it was a step. -/
  step : Value
  /-- The name of the class of the error. -/
  type : String
  deriving Repr

namespace FailureNote

/-- The fields of a note. -/
def toValue (n : FailureNote) : Value :=
  .record [("message", n.message), ("step", n.step), ("type", .str n.type)]

end FailureNote

/-- The record of an execution. -/
structure Execution where
  id : String
  workflowName : String
  status : ExecutionStatus
  startTime : DateTime
  endTime : Option DateTime
  /-- The inputs by name. -/
  inputs : Value
  outputs : Value
  stepResults : List StepResult
  failure : Option FailureNote
  deriving Repr

namespace Execution

/-- The record of an execution that starts. -/
def start (id workflowName : String) (now : DateTime) (inputs : Value) : Execution :=
  ⟨id, workflowName, .running, now, none, inputs, .null, [], none⟩

/-- The record of an execution that ended well. -/
def complete (x : Execution) (now : DateTime) (outputs : Value) : Execution :=
  { x with outputs, status := .completed, endTime := some now }

/-- The record of an execution that failed. -/
def fail (x : Execution) (now : DateTime) (note : FailureNote) : Execution :=
  { x with failure := some note, status := .failed, endTime := some now }

/-- How long the execution took in seconds, once it has ended. -/
def duration? (x : Execution) : Option Float :=
  x.endTime.map fun t => secondsBetween x.startTime t

/-- A failure as a value; `null` when there is none. -/
def failureValue (note : Option FailureNote) : Value :=
  match note with
  | some n => n.toValue
  | none => .null

/-- The fields of a record. -/
def toValue (x : Execution) : Value :=
  .record [("id", .str x.id), ("workflow_name", .str x.workflowName),
    ("status", .str x.status.name), ("start_time", .str x.startTime.isoText),
    ("end_time", .ofText? (x.endTime.map DateTime.isoText)), ("duration", .ofFloat? x.duration?),
    ("inputs", x.inputs), ("outputs", x.outputs),
    ("step_results", .list (x.stepResults.map StepResult.toValue)),
    ("error", failureValue x.failure)]

end Execution

/-- What a caller learns of an execution. -/
structure Summary where
  executionId : String
  status : ExecutionStatus
  outputs : Value
  duration : Option Float
  failure : Option FailureNote
  deriving Repr

namespace Summary

/-- What a caller learns of an execution from its record. -/
def ofExecution (x : Execution) : Summary :=
  ⟨x.id, x.status, x.outputs, x.duration?, x.failure⟩

/-- The fields of a summary. -/
def toValue (s : Summary) : Value :=
  .record [("execution_id", .str s.executionId), ("status", .str s.status.name),
    ("outputs", s.outputs), ("duration", .ofFloat? s.duration),
    ("error", Execution.failureValue s.failure)]

end Summary

end Workflow
