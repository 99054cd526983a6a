import Workflow.Executor.Basic

/-!
# The registry of executors

The registry says which executor runs the steps of a type.  Once it is frozen it does
not change any more.
-/

namespace Workflow

/-- Executors by the types of steps they run. -/
structure Registry (σ : Type) where
  handlers : Table (Handler σ)
  frozen : Bool

namespace Registry

variable {σ : Type}

/-- A registry without executors. -/
def empty : Registry σ :=
  ⟨[], false⟩

/-- The registry with what is built in added, except where a type has an executor already. -/
def withBuiltins (r : Registry σ) : Registry σ :=
  let given : Table (Handler σ) := (Builtin.all.map fun b => (b.name, Handler.builtin b))
    ++ [(Step.conditionalType, .conditional)]
  { r with handlers := r.handlers ++ given.filter fun (n, _) => !r.handlers.has n }

/-- Register an executor, in the place of the one that had its type. -/
def register (r : Registry σ) (type : String) (offered : Candidate σ) :
    Except Raised (Registry σ) :=
  if r.frozen then
    .error (.error (Error.general
      s!"Cannot register step type '{type}': the executor registry is frozen"
      (some "Register all step types before freezing the registry")))
  else if (Text.strip type).isEmpty then
    .error (.error (Error.general "Step type name must not be empty" none))
  else
    match offered.accept with
    | .error f => .error (.fault f)
    | .ok p => .ok { r with handlers := r.handlers.put type (.plugin p) }

/-- What is logged when a type is registered. -/
def registerLog (r : Registry σ) (type : String) : List String :=
  if r.handlers.has type then [s!"Replacing executor for step type '{type}'"] else []

/-- Remove the executor of a type; whether there was one. -/
def unregister (r : Registry σ) (type : String) : Except Error (Registry σ × Bool) :=
  if r.frozen then
    .error (Error.general
      s!"Cannot unregister step type '{type}': the executor registry is frozen" none)
  else .ok ({ r with handlers := r.handlers.erase type }, r.handlers.has type)

/-- The executor of a type. -/
def get (r : Registry σ) (type : String) (stepId : Option String) : Except Error (Handler σ) :=
  match r.handlers.get? type with
  | some h => .ok h
  | none => .error (Error.unknownStepType (.str type) (.ofText? stepId) .null)

/-- The types that have an executor, sorted. -/
def types (r : Registry σ) : List String :=
  r.handlers.names.mergeSort (· ≤ ·)

/-- The registry, which does not change any more. -/
def freeze (r : Registry σ) : Registry σ :=
  { r with frozen := true }

end Registry

end Workflow
