import Workflow.Executor.Builtin

/-!
# Executors

An executor runs the steps of a type.  Besides those that are built in and the one that
chooses between branches there are plugins, of which only the behaviour is known: what
an invocation ends with, and how it changes the state that the plugins share.
-/

namespace Workflow

/-- What an invocation ends with. -/
inductive Ending where
  | value (v : Value)
  | raised (r : Raised)
  /-- It does not end by itself. -/
  | endless

/-- An executor from outside. -/
structure Plugin (σ : Type) where
  /-- The name of its class. -/
  className : String
  /-- The name of the function it was made from, if it was made from one. -/
  functionName : Option String
  /-- Run a step with its resolved configuration in a context. -/
  invoke : Step -> Value -> Context -> σ -> Ending × σ

namespace Plugin

/-- The class of executors that are made from functions. -/
def functionClass : String := "FunctionExecutor"

/-- An executor made from a function. -/
def ofFunction {σ : Type} (name : String) (invoke : Step -> Value -> Context -> σ -> Ending × σ) :
    Plugin σ :=
  ⟨functionClass, some name, invoke⟩

/-- How an executor that was made from a function is shown. -/
def display? {σ : Type} (p : Plugin σ) : Option String :=
  p.functionName.map fun n => s!"{functionClass}({n})"

end Plugin

/-- What runs the steps of a type. -/
inductive Handler (σ : Type) where
  | builtin (b : Builtin)
  /-- Decides a condition and runs the steps of a branch. -/
  | conditional
  | plugin (p : Plugin σ)

/-- What may be offered as an executor. -/
inductive Candidate (σ : Type) where
  | executor (p : Plugin σ)
  /-- Something else, of which the type is known. -/
  | other (kind : String)

namespace Candidate

/-- The executor that was offered. -/
def accept {σ : Type} : Candidate σ -> Outcome (Plugin σ)
  | executor p => .ok p
  | other kind =>
      .error (.badArgument
        s!"Executor must be an Executor instance or a callable, got {kind}")

end Candidate

end Workflow
