import Workflow.Definition.Basic
import Workflow.Definition.Coercion
import Workflow.Table
import Workflow.Value.Function

/-!
# Reading definitions

The definition that a dictionary stands for.  Each field is read by its own rule, fields
that are left out have their defaults, and all problems are reported together.
-/

namespace Workflow

namespace Schema

open Coercion

/-- A field by name, with what it is when it is left out. -/
def field (entries : List (Value × Value)) (name : String) (read : Value -> Checked α)
    (absent : Checked α) : Checked α :=
  match Value.field? entries name with
  | none => absent
  | some v => Checked.under name (read v)

/-- A field that may not be left out. -/
def required (entries : List (Value × Value)) (name : String) (read : Value -> Checked α) :
    Checked α :=
  field entries name read (Checked.under name (Checked.flawed .missing))

/-- Any value. -/
def anything (v : Value) : Checked Value :=
  .ok v

/-- How a key that is not text is shown in the place of a problem. -/
def keyPlace (k : Value) : String :=
  match k.asInt? with
  | some n => toString n
  | none => k.asText?.getD k.literal

/-- The entries of a dictionary whose keys are texts; of keys with one text the last one counts. -/
def entriesOf (read : Value -> Checked α) (entries : List (Value × Value)) : Checked (Table α) :=
  (Checked.all (entries.map fun (k, v) =>
    let key := Checked.under (keyPlace k) (Checked.under "[key]" (text k))
    (Checked.of Prod.mk).apply key |>.apply (Checked.under (keyPlace k) (read v)))).map Table.ofEntries

/-- A dictionary from texts. -/
def dictionary (read : Value -> Checked α) (v : Value) : Checked (Table α) :=
  match v with
  | .dict entries => entriesOf read entries
  | _ => Checked.flawed .notDictionary

/-! ## Inputs -/

/-- The type of an input. -/
def inputType (v : Value) : Checked InputType :=
  word (InputType.all.map InputType.name) InputType.ofName? v

/-- The default of an input, which is of its type when the type is known. -/
def inputDefault (type : Checked InputType) (v : Value) : Checked Value :=
  match v, type with
  | .null, _ => .ok .null
  | v, .ok t =>
      if t.admits v then .ok v
      else
        let found := InputType.describe v
        Checked.flawed (.broken s!"default value must be of type '{t.name}', got {found}")
  | v, .error _ => .ok v

/-- The declaration of an input. -/
def input (v : Value) : Checked Input :=
  match v with
  | .dict entries =>
      let type := field entries "type" inputType (.ok .any)
      (Checked.of Input.mk).apply type
        |>.apply (field entries "required" truth (.ok false))
        |>.apply (field entries "default" (inputDefault type) (.ok .null))
        |>.apply (field entries "description" (optional text) (.ok none))
  | _ => Checked.flawed (.notModel "InputDef")

/-- The declarations of inputs; an empty field declares none. -/
def inputs (v : Value) : Checked (List (String × Input)) :=
  match v with
  | .null => .ok []
  | v => dictionary input v

/-! ## Steps -/

/-- The most attempts a step may ask for. -/
def maxAttempts : Int := 100

/-- A retry block. -/
def retryPolicy (v : Value) : Checked RetryPolicy :=
  match v with
  | .dict entries =>
      let attempts (v : Value) : Checked Int :=
        Checked.andThen (Checked.andThen (integer v) (integerAtMost maxAttempts)) (integerAtLeast 1)
      let delay (v : Value) : Checked Float := Checked.andThen (number v) (atLeast 0.0 "0")
      let backoff (v : Value) : Checked Float := Checked.andThen (number v) (atLeast 1.0 "1")
      let standard := RetryPolicy.standard
      (Checked.of RetryPolicy.mk).apply (field entries "attempts" attempts (.ok standard.attempts))
        |>.apply (field entries "delay" (optional delay) (.ok standard.delay))
        |>.apply (field entries "max_delay" (optional delay) (.ok standard.maxDelay))
        |>.apply (field entries "backoff" backoff (.ok standard.backoff))
  | _ => Checked.flawed (.notModel "RetryPolicy")

/-- A text that is not blank. -/
def name (v : Value) : Checked String :=
  Checked.andThen (text v) fun s =>
    if (Text.strip s).isEmpty then Checked.flawed (.broken "must not be empty") else .ok s

/-- The policy of a step for failures. -/
def errorPolicy (v : Value) : Checked ErrorPolicy :=
  word (ErrorPolicy.all.map ErrorPolicy.name) ErrorPolicy.ofName? v

/-- The longest time of an invocation. -/
def timeout (v : Value) : Checked Float :=
  Checked.andThen (number v) (above 0.0 "0")

/-- The fields of steps that have a meaning of their own. -/
def stepFields : List String :=
  ["id", "type", "description", "config", "on_error", "retry", "timeout", "condition", "if_true",
    "if_false"]

/-- The fields of a step that are kept for executors. -/
def extraFields (entries : List (Value × Value)) : Checked (List (String × Value)) :=
  let unknown := entries.filter fun (k, _) => !(k.asText?.map stepFields.contains).getD false
  Checked.all (unknown.map fun (k, v) =>
    match k.asText? with
    | some s => .ok (s, v)
    | none => Checked.under (keyPlace k) (Checked.flawed .badKey))

/-- A branch by name among those that were read. -/
def branchNamed (branches : List (String × Checked (Option (List Step)))) (name : String) :
    Checked (Option (List Step)) :=
  match branches.lookup name with
  | none => .ok none
  | some r => Checked.under name r

/-- A step of its fields, once its branches were read. -/
def stepOf (entries : List (Value × Value))
    (branches : List (String × Checked (Option (List Step)))) : Checked Step :=
  (Checked.of Step.mk).apply (required entries "id" name)
    |>.apply (required entries "type" name)
    |>.apply (field entries "description" (optional text) (.ok none))
    |>.apply (field entries "config" anything (.ok .null))
    |>.apply (field entries "on_error" errorPolicy (.ok .stop))
    |>.apply (field entries "retry" (optional retryPolicy) (.ok none))
    |>.apply (field entries "timeout" (optional timeout) (.ok none))
    |>.apply (field entries "condition" anything (.ok .null))
    |>.apply (branchNamed branches "if_true")
    |>.apply (branchNamed branches "if_false")
    |>.apply (extraFields entries)

mutual

/-- A step. -/
def step : Value -> Checked Step
  | .dict entries => stepOf entries (branches entries)
  | _ => Checked.flawed (.notModel "StepDef")

/-- The branches among the fields of a step. -/
def branches : List (Value × Value) -> List (String × Checked (Option (List Step)))
  | [] => []
  | (.str k, v) :: rest =>
      if k == "if_true" || k == "if_false" then (k, branch v) :: branches rest else branches rest
  | _ :: rest => branches rest

/-- A branch: a list of steps, or nothing. -/
def branch : Value -> Checked (Option (List Step))
  | .null => .ok none
  | .list items => (Checked.all (Checked.indexed 0 (steps items))).map some
  | .tuple items => (Checked.all (Checked.indexed 0 (steps items))).map some
  | _ => Checked.flawed .notList

/-- The steps of a list, each with its own problems. -/
def steps : List Value -> List (Checked Step)
  | [] => []
  | v :: rest => step v :: steps rest

end

/-- A list of steps. -/
def stepList (v : Value) : Checked (List Step) :=
  match v with
  | .list items => Checked.all (Checked.indexed 0 (steps items))
  | .tuple items => Checked.all (Checked.indexed 0 (steps items))
  | _ => Checked.flawed .notList

/-! ## Definitions -/

/-- A version; numbers count as their text. -/
def version (v : Value) : Checked (Option String) :=
  let ofNumber : Checked (Option String) :=
    match v.textOf with
    | .ok s => .ok (some s)
    | .error f => Checked.flawed (.broken f.message)
  match v with
  | .int _ => ofNumber
  | .float _ => ofNumber
  | v => optional text v

/-- A definition has at least one step. -/
def nonempty (d : Definition) : Checked Definition :=
  if d.steps.isEmpty then Checked.flawed (.broken "Workflow must have at least one step") else .ok d

/-- A definition. -/
def definition (v : Value) : Checked Definition :=
  match v with
  | .dict entries =>
      let read := (Checked.of Definition.mk).apply (required entries "name" text)
        |>.apply (field entries "version" version (.ok none))
        |>.apply (field entries "description" (optional text) (.ok none))
        |>.apply (field entries "inputs" inputs (.ok []))
        |>.apply (field entries "outputs" (optional (dictionary anything)) (.ok none))
        |>.apply (field entries "trigger" anything (.ok .null))
        |>.apply (required entries "steps" stepList)
        |>.apply (field entries "source_path" (optional text) (.ok none))
        |>.apply (field entries "loaded_at" (optional moment) (.ok none))
      Checked.andThen read nonempty
  | _ => Checked.flawed (.notModel "WorkflowDefinition")

end Schema

end Workflow
