import Workflow.Definition.Basic
import Workflow.Error

/-!
# Rules for definitions

What a definition must satisfy before its fields are read: it has a name and at least one
step, every step has an id and a type, no two steps of a list share an id, and a
conditional step has a condition and lists of steps for branches.  The first rule that is
broken is reported; what is merely odd becomes a warning.  To compare ids and to put them
into messages takes their texts, and an integer that is too long has none.
-/

namespace Workflow

namespace Rules

/-- The rules by name. -/
inductive Rule where
  | name
  | steps
  | stepId
  | stepType
  | duplicateIds
  | condition
  | branch
  deriving Repr, DecidableEq

/-- The name of a rule. -/
def Rule.label : Rule -> String
  | .name => "name"
  | .steps => "steps"
  | .stepId => "step_id"
  | .stepType => "step_type"
  | .duplicateIds => "duplicate_ids"
  | .condition => "condition"
  | .branch => "branch"

/-- A rule is broken. -/
structure Broken where
  rule : Rule
  message : String
  suggestion : Option String
  deriving Repr, DecidableEq

/-- What ends a check. -/
inductive Failure where
  | broken (b : Broken)
  /-- A value has no text. -/
  | fault (f : Fault)
  deriving Repr, DecidableEq

/-- The warnings of a list of steps, unless the check ends before. -/
abbrev Verdict := Except Failure (List String)

/-- A broken rule without advice. -/
def broken (rule : Rule) (message : String) : Except Failure α :=
  .error (.broken ⟨rule, message, none⟩)

/-- The text of a value. -/
def shown (v : Value) : Except Failure String :=
  v.textOf.mapError .fault

/-- A field of a step; `null` when it is left out. -/
def fieldOf (entries : List (Value × Value)) (name : String) : Value :=
  (Value.field? entries name).getD .null

/-- The text of the id of a step. -/
def idText (entries : List (Value × Value)) : Except Failure String :=
  shown (fieldOf entries "id")

/-- Whether a step is of the type that chooses between branches. -/
def isConditional (entries : List (Value × Value)) : Bool :=
  (fieldOf entries "type").asText? == some Step.conditionalType

/-- A step is a dictionary with an id and a type; its entries. -/
def checkHead (v : Value) : Except Failure (List (Value × Value)) :=
  match v with
  | .dict entries =>
      if !(fieldOf entries "id").truthy then broken .stepId "Each step must have an id"
      else if !(fieldOf entries "type").truthy then do
        let id <- idText entries
        broken .stepType s!"Step '{id}' must have a type"
      else .ok entries
  | _ => broken .stepId "Each step must have an id"

/-- The ids that occur more than once, in the order in which they first occur. -/
def duplicates (ids : List String) : List String :=
  (ids.filter fun id => 1 < ids.count id).eraseDups

/-- The ids of a list are distinct. -/
def checkDistinct (ids : List String) : Except Failure Unit :=
  match duplicates ids with
  | [] => .ok ()
  | ds =>
      let listed := ", ".intercalate ds
      broken .duplicateIds s!"Duplicate step IDs found: {listed}"

/-- A list of steps passes when its heads do, its ids are distinct and each step passes. -/
def checkList (items : List Value) (each : Verdict) : Verdict := do
  let heads <- items.mapM checkHead
  let ids <- heads.mapM idText
  checkDistinct ids
  each

/-- A conditional step has a condition. -/
def checkCondition (id : String) (entries : List (Value × Value)) : Except Failure Unit :=
  let condition := fieldOf entries "condition"
  let lacking := condition.isNull || condition.asText? == some ""
  if isConditional entries && lacking then
    broken .condition s!"Conditional step '{id}' must have a condition"
  else .ok ()

/--
The warnings on a branch.  Among the branches is the verdict on each field that is a list
of steps; there is none on fields that are something else.
-/
def branchVerdict (id : String) (entries : List (Value × Value)) (place key : String)
    (branches : List (String × Option Verdict)) : Verdict :=
  match fieldOf entries key with
  | .null => .ok []
  | _ =>
      if !isConditional entries then
        let wanted := Step.conditionalType
        .ok [s!"Step '{id}' at {place} declares '{key}' but is not a '{wanted}' step; the branch is ignored"]
      else
        match branches.lookup key with
        | some (some verdict) => verdict
        | _ => broken .branch s!"Step '{id}' {key} must be a list of steps"

/-- What a step does when it fails; to stop when it does not say. -/
def policyOf (entries : List (Value × Value)) : Value :=
  (Value.field? entries "on_error").getD (.str ErrorPolicy.stop.name)

/-- The warning on a retry block that is not used. -/
def retryWarning (id : String) (entries : List (Value × Value)) : Verdict :=
  match fieldOf entries "retry" with
  | .null => .ok []
  | _ =>
      let policy := policyOf entries
      if policy.asText? == some ErrorPolicy.retry.name then .ok []
      else do
        let text <- shown policy
        .ok [s!"Step '{id}' has a 'retry' block but on_error is '{text}'; the retry settings are unused"]

/-- The warnings on a step, once its branches were checked. -/
def stepVerdict (id : String) (entries : List (Value × Value)) (place : String)
    (branches : List (String × Option Verdict)) : Verdict := do
  checkCondition id entries
  let onTrue <- branchVerdict id entries place "if_true" branches
  let onFalse <- branchVerdict id entries place "if_false" branches
  let onRetry <- retryWarning id entries
  .ok (onTrue ++ onFalse ++ onRetry)

mutual

/-- The warnings on a step at a place. -/
def checkStep (place : String) : Value -> Verdict
  | .dict entries => do
      let id <- idText entries
      stepVerdict id entries place (checkBranches s!"{place}.{id}" entries)
  | _ => .ok []

/-- The warnings on the steps of a list at a place. -/
def checkSteps (place : String) : List Value -> Verdict
  | [] => .ok []
  | v :: rest => do
      let warnings <- checkStep place v
      .ok (warnings ++ (<- checkSteps place rest))

/-- The verdicts on the fields of a step that are lists. -/
def checkBranches (place : String) : List (Value × Value) -> List (String × Option Verdict)
  | [] => []
  | (.str key, v) :: rest => (key, checkBranch s!"{place}.{key}" v) :: checkBranches place rest
  | _ :: rest => checkBranches place rest

/-- The verdict on a field that is a list. -/
def checkBranch (place : String) : Value -> Option Verdict
  | .list items => some (checkList items (checkSteps place items))
  | _ => none

end

/-- The warnings on a definition, or what ends its check. -/
def checkDefinition (entries : List (Value × Value)) : Verdict :=
  if !(fieldOf entries "name").truthy then broken .name "Workflow must have a name"
  else
    match fieldOf entries "steps" with
    | .list [] =>
        .error (.broken ⟨.steps, "Workflow must have at least one step",
          some "Add at least one step to the 'steps' list"⟩)
    | .list items => checkList items (checkSteps "steps" items)
    | _ => broken .steps "Workflow must have steps array"

/-- The error of a broken rule. -/
def errorOf (source : Option String) (b : Broken) : Error :=
  Error.load b.message b.suggestion source (some b.rule.label)

/-- What the end of a check is raised as. -/
def Failure.raised (source : Option String) : Failure -> Raised
  | .broken b => .error (errorOf source b)
  | .fault f => .fault f

/-- The warnings on a definition, or what its check raises. -/
def check (source : Option String) (entries : List (Value × Value)) :
    Except Raised (List String) :=
  (checkDefinition entries).mapError (Failure.raised source)

end Rules

end Workflow
