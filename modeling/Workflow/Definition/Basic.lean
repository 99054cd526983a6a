import Workflow.Value.Text

/-!
# Workflow definitions

A definition declares inputs, outputs and an ordered list of steps.  A step names the
type of executor that runs it, its configuration, and what happens when it fails.
-/

namespace Workflow

/-- The types that inputs are declared with. -/
inductive InputType where
  | string
  | number
  | boolean
  | array
  | object
  | any
  deriving Repr, DecidableEq

namespace InputType

/-- The types in the order in which they are listed. -/
def all : List InputType :=
  [string, number, boolean, array, object, any]

/-- The name of a type in definitions. -/
def name : InputType -> String
  | string => "string"
  | number => "number"
  | boolean => "boolean"
  | array => "array"
  | object => "object"
  | any => "any"

/-- The type of a name. -/
def ofName? (s : String) : Option InputType :=
  all.find? fun t => t.name == s

/-- Whether a value is of a type; truth values are no numbers, and nothing is only `any`. -/
def admits (t : InputType) (v : Value) : Bool :=
  match t, v.bare with
  | any, _ => true
  | string, .str _ => true
  | string, .markup _ => true
  | number, .int _ => true
  | number, .float _ => true
  | boolean, .bool _ => true
  | array, .list _ => true
  | array, .tuple _ => true
  | object, .dict _ => true
  | _, _ => false

/-- What a value is called when its type is not the declared one. -/
def describe (v : Value) : String :=
  match v.bare with
  | .null => "null"
  | .bool _ => "boolean"
  | .int _ => "number"
  | .float _ => "number"
  | .str _ => "string"
  | .markup _ => "string"
  | .list _ => "array"
  | .tuple _ => "array"
  | .dict _ => "object"
  | v => v.plainKind

end InputType

/-- The declaration of an input. -/
structure Input where
  type : InputType
  required : Bool
  /-- What the input is when it is not given; `null` when there is nothing. -/
  default : Value
  description : Option String
  deriving Repr

/-- What happens when a step fails. -/
inductive ErrorPolicy where
  /-- The failure ends the execution. -/
  | stop
  /-- The failure is recorded and the next step runs. -/
  | proceed
  /-- The step runs again, and the failure ends the execution in the end. -/
  | retry
  deriving Repr, DecidableEq

namespace ErrorPolicy

/-- The policies in the order in which they are listed. -/
def all : List ErrorPolicy :=
  [stop, proceed, retry]

/-- The name of a policy in definitions. -/
def name : ErrorPolicy -> String
  | stop => "stop"
  | proceed => "continue"
  | retry => "retry"

/-- The policy of a name. -/
def ofName? (s : String) : Option ErrorPolicy :=
  all.find? fun p => p.name == s

end ErrorPolicy

/-- How often and after which delays a step runs again. -/
structure RetryPolicy where
  /-- How often the executor is invoked at most, the first time included. -/
  attempts : Int
  /-- Seconds before the second invocation, when the settings do not decide. -/
  delay : Option Float
  /-- The longest delay, when the settings do not decide. -/
  maxDelay : Option Float
  /-- By how much each delay is longer than the one before. -/
  backoff : Float
  deriving Repr

namespace RetryPolicy

/-- The policy of an empty block. -/
def standard : RetryPolicy :=
  ⟨3, none, none, 2.0⟩

end RetryPolicy

/-- A step.  Fields that are not known are kept for executors. -/
structure Step where
  id : String
  type : String
  description : Option String
  config : Value
  onError : ErrorPolicy
  retry : Option RetryPolicy
  /-- The longest time in seconds that one invocation may take. -/
  timeout : Option Float
  condition : Value
  ifTrue : Option (List Step)
  ifFalse : Option (List Step)
  extra : List (String × Value)
  deriving Repr

namespace Step

/-- The type of steps that choose between two branches. -/
def conditionalType : String := "conditional"

/-- Whether a step chooses between two branches. -/
def isConditional (s : Step) : Bool :=
  s.type == conditionalType

/-- A step of a type, with nothing else said. -/
def plain (id type : String) : Step :=
  ⟨id, type, none, .null, .stop, none, none, .null, none, none, []⟩

end Step

/-- A workflow definition. -/
structure Definition where
  name : String
  version : Option String
  description : Option String
  inputs : List (String × Input)
  outputs : Option (List (String × Value))
  trigger : Value
  steps : List Step
  /-- The file the definition was read from. -/
  sourcePath : Option String
  /-- When the definition was stored. -/
  loadedAt : Option DateTime
  deriving Repr

namespace Definition

/-- The ids of the steps in order. -/
def stepIds (d : Definition) : List String :=
  d.steps.map (·.id)

/-- The first step with an id. -/
def step? (d : Definition) (id : String) : Option Step :=
  d.steps.find? fun s => s.id == id

end Definition

end Workflow
