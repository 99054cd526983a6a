import Workflow.Context
import Workflow.Definition.Basic
import Workflow.Expression
import Workflow.Template.Rendering
import Workflow.Value.Method.Collection

/-!
# Types of steps that need nothing from outside

A transforming step evaluates an expression, an output step gives its configuration,
and a template step renders a text.
-/

namespace Workflow

/-- The types of steps that need nothing from outside. -/
inductive Builtin where
  | transform
  | output
  | template
  deriving Repr, DecidableEq

namespace Builtin

/-- All of them. -/
def all : List Builtin :=
  [transform, output, template]

/-- The name of a type in definitions. -/
def name : Builtin -> String
  | transform => "transform"
  | output => "output"
  | template => "template"

/-- The type of a name. -/
def ofName? (s : String) : Option Builtin :=
  all.find? fun b => b.name == s

/-- The error of a step whose configuration lacks something. -/
def lacks (step : Step) (message : String) (suggestion : Option String) : Error :=
  Error.executor message suggestion (some step.id) (.ofType (some step.type))

/-- A field of a configuration; `null` when there is none. -/
def fieldOf (config : Value) (name : String) : Value :=
  match config.bare with
  | .dict entries => (Value.field? entries name).getD .null
  | _ => .null

/-- What a step does with changeable values, which may raise something. -/
abbrev Work := EStateM Raised Objects

/-- Do something whose failures are errors of the engine. -/
def raising {α : Type} (m : EStateM Error Objects α) : Work α := fun o =>
  match m o with
  | .ok a o => .ok a o
  | .error e o => .error (.error e) o

/-- Evaluate the expression of a configuration; what is no text stands for itself. -/
def runTransform (step : Step) (config : Value) (c : Context) : Work Value :=
  match fieldOf config "expression" with
  | .null => throw (.error lacking)
  | .str source =>
      if source.isEmpty then throw (.error lacking)
      else raising (Expression.evaluate source c.dataScope)
  | v => pure v
where
  /-- The error of a configuration without an expression. -/
  lacking : Error :=
    lacks step "Transform node requires an expression"
      (some "Add 'expression' under the step's config")

/-- What a template sees: the scope of its context, and over it the variables of the configuration. -/
def visible (config : Value) (c : Context) : List (String × Value) :=
  let entries := match (fieldOf config "vars").bare with
    | .dict more => Value.insertAll c.scope more
    | _ => c.scope
  entries.filterMap fun (k, v) => k.asText?.map fun n => (n, v)

/-- A text under a key, or by itself when there is no key. -/
def keyed (key : Value) (text : String) : Outcome Value :=
  if key.truthy then do .ok (.dict [((<- Value.hashable key), .str text)]) else .ok (.str text)

/-- Render the template of a step as it stands in the definition, with the variables of the configuration. -/
def runTemplate (step : Step) (config : Value) (c : Context) : Work Value :=
  match fieldOf step.config "template", config.bare with
  | .str source, .dict _ => do
      let text <- raising (Template.render source (visible config c))
      match keyed (fieldOf config "key") text with
      | .ok v => pure v
      | .error f => throw (.fault f)
  | _, _ => throw (.error (lacks step "Template node requires a 'template' string" none))

/-- Run a step of one of these types with its resolved configuration. -/
def run (b : Builtin) (step : Step) (config : Value) (c : Context) : Work Value :=
  match b with
  | transform => runTransform step config c
  | output => pure config
  | template => runTemplate step config c

end Builtin

end Workflow
