import Workflow.Fault
import Workflow.Value.Access

/-!
# Errors of the engine

Every failure the engine reports is an `Error`: what kind it is, its message, advice on
how to resolve it, and the execution and step it belongs to.  Failures that executors
raise themselves are `Raised` values; the dispatcher turns them into errors.
-/

namespace Workflow

/-- What a failure of an executor was made from. -/
inductive Origin where
  /-- Another failure, by the name of its class and its message. -/
  | failure (name message : String)
  /-- A value that is no failure; `null` when nothing is known. -/
  | value (v : Value)
  deriving Repr

namespace Origin

/-- The fields of an origin. -/
def toValue : Origin -> Value
  | failure name message => .record [("type", .str name), ("message", .str message)]
  | value v => v

/-- The text of an origin that is known. -/
def text? : Origin -> Option String
  | failure _ message => some message
  | value v => if v.isNull then none else some v.text

end Origin

/--
What all failures of executors carry.  Executors may raise them with details of any kind;
`null` stands for what is not known.
-/
structure ExecutorFailure where
  stepType : Value
  /-- What was wrapped. -/
  original : Origin
  /-- How often the executor was invoked. -/
  attempts : Value
  deriving Repr

namespace ExecutorFailure

/-- A failure of one invocation of which nothing else is known. -/
def plain : ExecutorFailure :=
  ⟨.null, .value .null, .int 1⟩

/-- A failure of one invocation at a step of some type. -/
def ofType (stepType : Option String) : ExecutorFailure :=
  { plain with stepType := .ofText? stepType }

end ExecutorFailure

/-- The kind of an error, with what only errors of that kind carry. -/
inductive ErrorKind where
  | general
  /-- A definition that cannot be loaded: where it comes from and the rule it breaks. -/
  | load (source rule : Value)
  /-- Inputs that do not match their declaration. -/
  | validation (inputName expected actual : Value)
  | unknownStepType (stepType : Value)
  | execution
  | executor (failure : ExecutorFailure)
  | expression (failure : ExecutorFailure) (source missing : Value)
  | template (failure : ExecutorFailure) (undefinedVariable : Value)
  | timeout (failure : ExecutorFailure) (seconds : Value)
  | workflowNotFound (name : Value)
  | executionNotFound
  deriving Repr

/-- An error of the engine. -/
structure Error where
  kind : ErrorKind
  /-- What went wrong, in words. -/
  content : Value
  suggestion : Value
  executionId : Value
  stepId : Value
  deriving Repr

namespace ErrorKind

/-- The name errors of a kind are shown under. -/
def name : ErrorKind -> String
  | general => "StepflowError"
  | load .. => "LoadError"
  | validation .. => "ValidationError"
  | unknownStepType _ => "UnknownStepTypeError"
  | execution => "ExecutionError"
  | executor _ => "ExecutorError"
  | expression .. => "ExpressionError"
  | template .. => "TemplateError"
  | timeout .. => "StepTimeoutError"
  | workflowNotFound _ => "WorkflowNotFoundError"
  | executionNotFound => "ExecutionNotFoundError"

/-- What a failure of an executor carries, when the kind is one. -/
def executor? : ErrorKind -> Option ExecutorFailure
  | executor f => some f
  | expression f _ _ => some f
  | template f _ => some f
  | timeout f _ => some f
  | _ => none

/-- The kind with another record of the failing executor. -/
def withExecutor (k : ErrorKind) (f : ExecutorFailure) : ErrorKind :=
  match k with
  | executor _ => executor f
  | expression _ source missing => expression f source missing
  | template _ missing => template f missing
  | timeout _ seconds => timeout f seconds
  | k => k

/-- The names of the kinds an error belongs to, from the most general one. -/
def ancestry (k : ErrorKind) : List String :=
  match k with
  | general => [general.name]
  | k =>
      match k.executor? with
      | none => [general.name, k.name]
      | some _ =>
          match k with
          | executor _ => [general.name, k.name]
          | k => [general.name, "ExecutorError", k.name]

end ErrorKind

/-- What an executor raises. -/
inductive Raised where
  /-- An error of the engine. -/
  | error (e : Error)
  /-- A failure of another class. -/
  | fault (f : Fault)
  /-- The execution is cancelled. -/
  | cancelled
  deriving Repr

namespace Error

/-- The words of an error. -/
def message (e : Error) : String :=
  e.content.text

/-- Whether a text occurs in another. -/
def mentions (part whole : String) : Bool :=
  Value.occursIn part.toList whole.toList

/-- A text in small letters. -/
def lowered (s : String) : String :=
  String.ofList (Text.lower s.toList)

/-- The advice on a definition that cannot be loaded, chosen by what its message says. -/
def loadAdvice (message : String) : Option String :=
  let text := lowered message
  if mentions "duplicate step ids" text then
    some "Rename the duplicated steps so every top-level step id is unique"
  else if mentions "must have a type" text then
    some "Set 'type' to a registered step type such as 'transform' or 'output'"
  else if mentions "must have a condition" text then
    some "Add a 'condition' expression to the conditional step"
  else if mentions "syntax" text then
    some "Check the document syntax. Common issues include incorrect indentation, missing colons, or unquoted special characters."
  else
    none

/-- The advice on inputs that are not of the type they are declared with. -/
def typeAdvice (expected actual : Value) : Option String :=
  if !expected.truthy then none
  else if actual.truthy then some s!"Expected type '{expected.text}', but got '{actual.text}'"
  else some s!"Expected type '{expected.text}'"

/-- The advice on an expression that has no value. -/
def expressionAdvice : String :=
  "Expressions may only reference 'inputs', 'steps' and input names. Quote string values substituted from \x7b\x7b \x7d\x7d tokens"

/-- The advice on a template that cannot be rendered. -/
def templateAdvice (message : String) (undefinedVariable : Value) : Option String :=
  if undefinedVariable.truthy then
    some (s!"Variable '{undefinedVariable.text}' is not defined. "
      ++ "Check available context variables: inputs.*, steps.<id>.output, workflow.*, env.*")
  else if mentions "syntax" (lowered message) then
    some "Check Jinja2 template syntax: ensure \x7b\x7b \x7d\x7d are balanced and filters use | correctly"
  else
    none

/-- Seconds in their shortest general form, to six digits. -/
def secondsText (seconds : Value) : String :=
  match Value.format seconds "g" with
  | .ok s => s
  | .error _ => seconds.text

/-- The advice on errors of a kind that say some words. -/
def adviceOn (kind : ErrorKind) (message : String) : Option String :=
  match kind with
  | .load .. => loadAdvice message
  | .validation _ expected actual => typeAdvice expected actual
  | .unknownStepType type =>
      some (s!"Register an executor for '{type.text}' with register_node_type() "
        ++ "before executing the workflow")
  | .expression .. => some expressionAdvice
  | .template _ undefinedVariable => templateAdvice message undefinedVariable
  | .timeout _ seconds => some s!"Increase the step 'timeout' (currently {secondsText seconds}s)"
  | .workflowNotFound _ => some "Load the workflow definition before executing it"
  | _ => none

/--
An error of a kind, not yet tied to an execution or a step.  Where no suggestion is given
the error has the advice on errors of its kind.
-/
def make (kind : ErrorKind) (content suggestion : Value) : Error :=
  let suggestion := match suggestion with
    | .null => .ofText? (adviceOn kind content.text)
    | given => given
  ⟨kind, content, suggestion, .null, .null⟩

/-- An error of no particular kind. -/
def general (message : String) (suggestion : Option String) : Error :=
  make .general (.str message) (.ofText? suggestion)

/-- A definition cannot be loaded. -/
def load (message : String) (suggestion source rule : Option String) : Error :=
  make (.load (.ofText? source) (.ofText? rule)) (.str message) (.ofText? suggestion)

/-- An input does not match its declaration. -/
def validation (message : String) (suggestion inputName expected actual : Option String) : Error :=
  make (.validation (.ofText? inputName) (.ofText? expected) (.ofText? actual)) (.str message)
    (.ofText? suggestion)

/-- A step was reached whose type has no executor. -/
def unknownStepType (stepType stepId suggestion : Value) : Error :=
  let message := s!"Unknown step type: {stepType.text}"
  { make (.unknownStepType stepType) (.str message) suggestion with stepId }

/-- The engine met a state that is not allowed. -/
def execution (message : String) (suggestion : Option String) : Error :=
  make .execution (.str message) (.ofText? suggestion)

/-- An executor failed. -/
def executor (message : String) (suggestion stepId : Option String) (failure : ExecutorFailure) :
    Error :=
  { make (.executor failure) (.str message) (.ofText? suggestion) with stepId := .ofText? stepId }

/-- An expression has no value. -/
def expression (message : String) (suggestion source : Option String) (missing : Bool) : Error :=
  make (.expression .plain (.ofText? source) (.bool missing)) (.str message) (.ofText? suggestion)

/-- A template cannot be rendered. -/
def template (message : String) (suggestion undefinedVariable : Option String) : Error :=
  make (.template .plain (.ofText? undefinedVariable)) (.str message) (.ofText? suggestion)

/-- A step did not end in time. -/
def timeout (message : String) (seconds : Value) (stepId stepType : Option String) : Error :=
  { make (.timeout (.ofType stepType) seconds) (.str message) .null with
    stepId := .ofText? stepId }

/-- No definition of a name is stored. -/
def workflowNotFound (name suggestion : Value) : Error :=
  make (.workflowNotFound name) (.str s!"Workflow '{name.text}' not found") suggestion

/-- No execution of an id is recorded. -/
def executionNotFound (id suggestion : Value) : Error :=
  { make .executionNotFound (.str s!"Execution '{id.text}' not found") suggestion with
    executionId := id }

/-- The message, followed by the advice when there is any. -/
def display (e : Error) : String :=
  if e.suggestion.truthy then s!"{e.message}\n\n💡 Suggestion: {e.suggestion.text}" else e.message

/-- What an error carries beside its words, by name; what is not known is left out. -/
def details (e : Error) : List (String × Value) :=
  let failure : List (String × Value) := match e.kind.executor? with
    | none => []
    | some f =>
        [("step_type", f.stepType), ("original_error", f.original.toValue), ("attempts", f.attempts)]
  let special : List (String × Value) := match e.kind with
    | .load source rule => [("source", source), ("rule", rule)]
    | .validation name expected actual =>
        [("input_name", name), ("expected_type", expected), ("actual_type", actual)]
    | .unknownStepType type => [("step_type", type)]
    | .expression _ source missing => [("expression", source), ("missing_reference", missing)]
    | .template _ undefinedVariable => [("undefined_variable", undefinedVariable)]
    | .timeout _ seconds => [("timeout_seconds", seconds)]
    | .workflowNotFound name => [("name", name)]
    | _ => []
  let shared := [("suggestion", e.suggestion), ("execution_id", e.executionId),
    ("step_id", e.stepId)]
  (shared ++ failure ++ special).filter fun (_, v) => !v.isNull

/-- Whether the error says that a step type is unknown. -/
def isUnknownStepType (e : Error) : Bool :=
  match e.kind with
  | .unknownStepType _ => true
  | _ => false

/-- Whether an expression failed because something it references does not exist. -/
def isMissingReference (e : Error) : Bool :=
  match e.kind with
  | .expression _ _ missing => missing.truthy
  | _ => false

end Error

namespace Raised

/-- The name of the class of what was raised. -/
def name : Raised -> String
  | error e => e.kind.name
  | fault f => f.name
  | cancelled => "CancelledError"

/-- The text of what was raised. -/
def display : Raised -> String
  | error e => e.display
  | fault f => f.message
  | cancelled => ""

end Raised

end Workflow
