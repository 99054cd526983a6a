import Workflow.Definition.Coercion
import Workflow.Definition.Record
import Workflow.Error
import Workflow.Path

/-!
# Settings of the engine

Where definitions are read from, how many executions are kept, and how long to wait
between the invocations of a step that failed.
-/

namespace Workflow

/-- The settings of an engine. -/
structure Settings where
  /-- The folder whose definitions are loaded at the start. -/
  workflowsDir : Option Path
  /-- How many executions are kept at most. -/
  maxExecutions : Option Int
  /-- Seconds before the second invocation of a step. -/
  retryBaseDelay : Float
  /-- The longest time between two invocations, in seconds. -/
  retryMaxDelay : Float
  /-- The largest part of a delay that chance may add to it. -/
  retryJitter : Float
  /-- How often a step without a retry block of its own is invoked at most. -/
  defaultRetryAttempts : Int
  deriving Repr

namespace Settings

open Coercion

/-- The settings when nothing is said. -/
def standard : Settings :=
  ⟨none, none, 1.0, 30.0, 0.25, 3⟩

/-- The name that problems with settings are reported for. -/
def modelName : String := "EngineConfig"

/-- A path. -/
def path (v : Value) : Checked Path :=
  match Coercion.text v with
  | .ok s => .ok (Path.ofText s)
  | .error _ => Checked.flawed .notPath

/-- A field by name, with what it is when it is left out. -/
def field (entries : List (Value × Value)) (name : String) (read : Value -> Checked α)
    (absent : α) : Checked α :=
  match Value.field? entries name with
  | none => .ok absent
  | some v => Checked.under name (read v)

/-- Settings from a dictionary; fields that are not known are passed over. -/
def read (v : Value) : Checked Settings :=
  match v with
  | .dict entries =>
      let count (v : Value) : Checked Int := Checked.andThen (integer v) (integerAtLeast 1)
      let delay (v : Value) : Checked Float := Checked.andThen (number v) (atLeast 0.0 "0")
      let portion (v : Value) : Checked Float :=
        Checked.andThen (Checked.andThen (number v) (atMost 1.0 "1")) (atLeast 0.0 "0")
      (Checked.of Settings.mk).apply
          (field entries "workflows_dir" (optional path) standard.workflowsDir)
        |>.apply (field entries "max_executions" (optional count) standard.maxExecutions)
        |>.apply (field entries "retry_base_delay" delay standard.retryBaseDelay)
        |>.apply (field entries "retry_max_delay" delay standard.retryMaxDelay)
        |>.apply (field entries "retry_jitter" portion standard.retryJitter)
        |>.apply (field entries "default_retry_attempts" count standard.defaultRetryAttempts)
  | _ => Checked.flawed (.notModel modelName)

/-- What the names of variables that hold settings begin with. -/
def variableStart : String := "STEPFLOW_"

/-- The fields that are read from the environment, with the ends of their variables' names. -/
def variableFields : List (String × String) :=
  [("workflows_dir", "WORKFLOWS_DIR"), ("max_executions", "MAX_EXECUTIONS"),
    ("retry_base_delay", "RETRY_BASE_DELAY"), ("retry_max_delay", "RETRY_MAX_DELAY")]

/-- The fields that an environment gives; a variable that is empty gives none. -/
def entriesOf (env : List (String × String)) : List (Value × Value) :=
  variableFields.filterMap fun (name, ending) =>
    match env.lookup (variableStart ++ ending) with
    | some s => if s.isEmpty then none else some (.str name, .str s)
    | none => none

/-- The error of an environment that holds unusable settings. -/
def environmentError (problems : List Problem) : Error :=
  let count := Problem.countText problems modelName
  Error.general s!"Invalid engine configuration from environment: {count}"
    (some s!"Check the {variableStart}* environment variables")

/-- The settings that an environment gives. -/
def ofEnvironment (env : List (String × String)) : Checked Settings :=
  read (.dict (entriesOf env))

/-- The fields of settings. -/
def toValue (s : Settings) : Value :=
  .record [("workflows_dir", .ofText? (s.workflowsDir.map Path.text)),
    ("max_executions", match s.maxExecutions with
      | some n => .int n
      | none => .null),
    ("retry_base_delay", .float s.retryBaseDelay), ("retry_max_delay", .float s.retryMaxDelay),
    ("retry_jitter", .float s.retryJitter),
    ("default_retry_attempts", .int s.defaultRetryAttempts)]

end Settings

end Workflow
