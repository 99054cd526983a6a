import Workflow.Environment
import Workflow.Error
import Workflow.Fresh
import Workflow.Table
import Workflow.Value.Objects

/-!
# The context of an execution

What the steps of an execution see: the inputs, what the steps before them gave, facts
about the workflow, the environment, and what the caller added.  A step is recorded
once, and what was recorded stays.
-/

namespace Workflow

/-- What a step that ended left behind. -/
structure StepRecord where
  output : Value
  /-- How the step ended, in a word. -/
  status : String
  executedAt : DateTime
  deriving Repr

namespace StepRecord

/-- The word for a step that ended well. -/
def completed : String := "completed"

/-- The word for a step whose failure was absorbed. -/
def failed : String := "failed"

/-- The fields of a record. -/
def toValue (r : StepRecord) : Value :=
  .record [("output", r.output), ("status", .str r.status),
    ("executed_at", .str r.executedAt.isoText)]

end StepRecord

/-- The context of an execution. -/
structure Context where
  /-- The inputs by name, which steps may change. -/
  inputs : Value
  /-- Facts about the workflow and the execution. -/
  workflow : List (Value × Value)
  env : Environment
  /-- What the caller added under names of its own. -/
  extra : List (Value × Value)
  /-- The steps that ended so far, in order. -/
  records : Table StepRecord

namespace Context

/-- The context with one more step recorded. -/
def record (c : Context) (id : String) (r : StepRecord) : Except Error Context :=
  if c.records.has id then
    .error (Error.execution s!"Step '{id}' has already been recorded in this execution"
      (some "Step ids must be unique within a workflow"))
  else .ok { c with records := c.records ++ [(id, r)] }

/-- What the step recorded last gave; nothing when no step was recorded. -/
def lastOutput (c : Context) : Value :=
  match c.records.getLast? with
  | some (_, r) => r.output
  | none => .null

/-- The records by the ids of their steps. -/
def steps (c : Context) : Value :=
  .record (c.records.map fun (id, r) => (id, r.toValue))

/-- The environment, which steps may read but not change. -/
def environment (c : Context) : Value :=
  .sealed (c.env.map fun (n, s) => (.str n, .str s))

/-- Entries put over others, one after another. -/
def overlay (entries : List (Value × Value)) (added : List (String × Value)) :
    List (Value × Value) :=
  added.foldl (fun acc (n, v) => Value.putField acc n v) entries

/-- What tokens and templates see; the names of the engine win over those of the caller. -/
def scope (c : Context) : List (Value × Value) :=
  overlay c.extra [("workflow", .dict c.workflow), ("inputs", c.inputs),
    ("steps", c.steps), ("env", c.environment)]

/-- What transforming expressions see. -/
def dataScope (c : Context) : List (Value × Value) :=
  overlay [] [("inputs", c.inputs), ("steps", c.steps), ("env", c.environment),
    ("workflow", .dict c.workflow)]

/-- What conditions see: the inputs, also under their own names, and the steps. -/
def conditionScope (c : Context) : List (Value × Value) :=
  overlay (c.inputs.entries?.getD []) [("inputs", c.inputs), ("steps", c.steps)]

/-- The context with what its values hold by now. -/
def current (c : Context) (o : Objects) : Context :=
  let inputs := o.refresh c.inputs
  let extra := c.extra.map fun (n, v) => (n, o.refresh v)
  let records := c.records.map fun (id, r) => (id, { r with output := o.refresh r.output })
  { c with inputs, extra, records }

/-- Give marks to the records' outputs that have none, from the first record on. -/
def adoptRecords (o : Objects) : Table StepRecord -> Table StepRecord × Objects
  | [] => ([], o)
  | (id, r) :: rest =>
      let (output, o) := o.adopt r.output
      let (rest, o) := adoptRecords o rest
      ((id, { r with output }) :: rest, o)

/-- The context with marks for all that steps may change. -/
def adopt (c : Context) (o : Objects) : Context × Objects :=
  let (inputs, o) := o.adopt c.inputs
  let (extra, o) := o.adoptAddedEntries c.extra
  let (records, o) := adoptRecords o c.records
  ({ c with inputs, extra, records }, o)

end Context

end Workflow
