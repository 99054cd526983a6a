import Workflow.Dispatch.Step
import Workflow.Ledger
import Workflow.Store

/-!
# The engine

The engine stores definitions and executes them.  An execution checks the inputs, opens
a record in the ledger, dispatches the steps in their order, each one seeing what the
steps before it gave, and closes the record with the outputs or the failure.
-/

namespace Workflow

/-- An engine. -/
structure Engine (σ : Type) where
  settings : Settings
  store : Store
  ledger : Ledger
  registry : Registry σ
  /-- Whether the folder of the settings was loaded. -/
  initialized : Bool

namespace Engine

variable {σ : Type}

/-- An engine with the types that are built in, unless its registry is frozen. -/
def create (settings : Settings) (registry : Registry σ) : Outcome (Engine σ) := do
  let ledger <- Ledger.ofLimit settings.maxExecutions
  let registry := if registry.frozen then registry else registry.withBuiltins
  .ok ⟨settings, [], ledger, registry, false⟩

/-! ## Definitions -/

/-- Load the folder of the settings, the first time this is asked for. -/
def startUp (e : Engine σ) (env : Environment) (files : Files) (now : DateTime) :
    Engine σ × List LogLine × Except Raised (Option FolderLoad) :=
  if e.initialized then (e, [], .ok none)
  else
    let e := { e with initialized := true }
    match e.settings.workflowsDir with
    | none => (e, [⟨.info, "Workflow engine initialized"⟩], .ok none)
    | some folder =>
        let all := e.store.receiveFolder env files now folder
        let e := { e with store := all.store }
        match all.result with
        | .error r => (e, all.log, .error r)
        | .ok f =>
            let line := s!"Workflow engine initialized with {e.store.length} workflow(s)"
            (e, all.log ++ [⟨.info, line⟩], .ok (some f))

/-- Forget all definitions and load the folder of the settings again. -/
def reload (e : Engine σ) (env : Environment) (files : Files) (now : DateTime) :
    Engine σ × List LogLine × Except Raised (Option FolderLoad) :=
  startUp { e with store := [], initialized := false } env files now

/-! ## Inputs -/

/-- Advice on an input that is missing. -/
def inputAdvice (name : String) (i : Input) : String :=
  let hint := s!"Provide '{name}' ({i.type.name})"
  match i.description with
  | some text => if text.isEmpty then hint else s!"{hint}: {text}"
  | none => hint

/-- Inputs in which one declared input is present and of its type. -/
def checkInput (given : List (Value × Value)) (name : String) (i : Input) :
    Except Error (List (Value × Value)) :=
  match Value.field? given name with
  | none =>
      if i.required then
        .error (Error.validation s!"Required input '{name}' is missing"
          (some (inputAdvice name i)) (some name) (some i.type.name) none)
      else .ok (Value.putField given name i.default)
  | some v =>
      if i.type.admits v then .ok given
      else
        let found := InputType.describe v
        .error (Error.validation s!"Input '{name}' should be {i.type.name}, got {found}" none
          (some name) (some i.type.name) (some found))

/-- Inputs in which all declared inputs are present and of their types; the others stay. -/
def checkInputs (given : List (Value × Value)) :
    List (String × Input) -> Except Error (List (Value × Value))
  | [] => .ok given
  | (name, i) :: rest => do checkInputs (<- checkInput given name i) rest

/-- Declared inputs with marks for what can be changed in their defaults. -/
def adoptDefaults (o : Objects) : List (String × Input) -> List (String × Input) × Objects
  | [] => ([], o)
  | (name, i) :: rest =>
      let (default, o) := o.adopt i.default
      let (rest, o) := adoptDefaults o rest
      ((name, { i with default }) :: rest, o)

/-! ## Executions -/

/-- How far an execution has come. -/
structure Progress where
  context : Context
  results : List StepResult

/-- The result of a step that ended. -/
def resultOf (step : Step) (o : StepOutcome) : StepResult :=
  ⟨step.id, step.type, o.status, o.output, o.attempts, o.startedAt, o.finishedAt⟩

/-- Dispatch one step and record how it ended. -/
def advance (d : Dispatcher σ) (p : Progress) (step : Step) : Run σ Progress := do
  let outcome <- d.dispatch p.context step
  let record : StepRecord := ⟨outcome.output, outcome.status, <- Run.now⟩
  let context <- Run.ofResult (p.context.record step.id record)
  pure ⟨context, p.results ++ [resultOf step outcome]⟩

/-- What stopped an execution, and the id of the step that was running. -/
structure Stop where
  step : Option String
  raised : Raised

/-- Dispatch steps in order up to the first one that raises something. -/
def advanceAll (d : Dispatcher σ) (p : Progress) :
    List Step -> StateM (World σ) (Progress × Option Stop)
  | [] => pure (p, none)
  | step :: rest => fun w =>
      match advance d p step w with
      | .ok p w => advanceAll d p rest w
      | .error r w => ((p, some ⟨some step.id, r⟩), w)

/-- Resolve the declared outputs in order. -/
def resolveOutputs (scope : Value) : List (String × Value) -> Reference.Resolving (List (String × Value))
  | [] => pure []
  | (name, v) :: rest => do
      let w <- Reference.resolve scope v
      pure ((name, w) :: (<- resolveOutputs scope rest))

/-- The outputs of an execution: the declared ones, or what the last step gave. -/
def outputsOf (d : Definition) (c : Context) : Run σ Value :=
  match d.outputs with
  | none => pure c.lastOutput
  | some outputs => do
      let scope <- Run.current (.dict c.scope)
      Run.own (.record (<- Run.resolving (resolveOutputs scope outputs)))

/-- The note on what stopped an execution, and what the caller sees raised. -/
def noteOf (executionId : String) (s : Stop) : FailureNote × Raised :=
  match s.raised with
  | .error e =>
      let stepId := if e.stepId.truthy then e.stepId else .ofText? s.step
      (⟨e.content, stepId, e.kind.name⟩, .error { e with executionId := .str executionId, stepId })
  | .fault f => (⟨.str f.message, .ofText? s.step, f.name⟩, .fault f)
  | .cancelled => (⟨.str "Execution cancelled", .ofText? s.step, "CancelledError"⟩, .cancelled)

/-- The line that is logged when an execution failed. -/
def failureLine (x : Execution) (note : FailureNote) : String :=
  let place := if note.step.truthy then s!" at step '{note.step.text}'" else ""
  s!"Workflow '{x.workflowName}' failed [{x.id}]{place}: {note.message.text}"

/-- A duration in seconds with three places. -/
def durationText (seconds : Float) : String :=
  match Value.format (.float seconds) ".3f" with
  | .ok s => s
  | .error _ => (Value.float seconds).text

/-- The line that is logged when an execution is completed. -/
def completionLine (x : Execution) : String :=
  let taken := durationText (x.duration?.getD 0.0)
  s!"Workflow '{x.workflowName}' completed [{x.id}] in {taken}s"

/-- Run the steps of a definition to the end of its execution. -/
def runToEnd (d : Dispatcher σ) (definition : Definition) (c : Context) (x : Execution) :
    StateM (World σ) (Execution × Except Raised Unit) := fun w =>
  let ((p, stop), w) := advanceAll d ⟨c, []⟩ definition.steps w
  let x := { x with stepResults := p.results }
  let failed (s : Stop) (w : World σ) : (Execution × Except Raised Unit) × World σ :=
    let (note, raised) := noteOf x.id s
    let x := x.fail w.fresh.now note
    ((x, .error raised), w.logged .error (failureLine x note))
  match stop with
  | some s => failed s w
  | none =>
      match outputsOf definition p.context w with
      | .error r w => failed ⟨none, r⟩ w
      | .ok outputs w =>
          let x := x.complete w.fresh.now outputs
          ((x, .ok ()), w.logged .info (completionLine x))

/-- The context in which an execution starts. -/
def contextOf (definition : Definition) (id : String) (env : Environment) (inputs : Value)
    (extra : List (Value × Value)) : Context :=
  ⟨inputs, [(.str "name", .str definition.name), (.str "execution_id", .str id)], env, extra, []⟩

/--
The definition of a name and the inputs that fit it, or why no execution starts.  The
default of an input is one value that all executions share.
-/
def prepare (e : Engine σ) (name : String) (inputs : List (Value × Value)) :
    StateM (World σ) (Engine σ × Except Error (Definition × List (Value × Value))) := fun w =>
  match e.store.get? name with
  | none => ((e, .error (Error.workflowNotFound (.str name) .null)), w)
  | some definition =>
      let (declared, objects) := adoptDefaults w.objects definition.inputs
      let definition := { definition with inputs := declared }
      let e := { e with store := e.store.put name definition }
      ((e, (checkInputs inputs declared).map fun given => (definition, given)), { w with objects })

/-- Open the record of an execution, and the context in which it starts. -/
def openRecord (e : Engine σ) (env : Environment) (definition : Definition)
    (inputs extra : List (Value × Value)) :
    StateM (World σ) (Engine σ × Context × Execution) := fun w =>
  let (id, fresh) := w.fresh.issue
  let (c, objects) := (contextOf definition id env (.dict inputs) extra).adopt w.objects
  let x := Execution.start id definition.name fresh.now c.inputs
  let w := { w with fresh, objects }
  (({ e with ledger := e.ledger.add x }, c, x),
    w.logged .info s!"Starting workflow '{definition.name}' [{id}]")

/--
Execute a definition by name.  The engine that results has a record of the execution,
unless it did not start because the name is unknown or the inputs do not fit.
-/
def execute (e : Engine σ) (env : Environment) (name : String)
    (inputs extra : List (Value × Value)) :
    StateM (World σ) (Engine σ × Except Raised Summary) := fun w =>
  match prepare e name inputs w with
  | ((e, .error problem), w) => ((e, .error (.error problem)), w)
  | ((e, .ok (definition, given)), w) =>
      let ((e, c, x), w) := openRecord e env definition given extra w
      let ((x, ended), w) := runToEnd ⟨e.settings, e.registry⟩ definition c x w
      (({ e with ledger := e.ledger.update x }, ended.map fun _ => Summary.ofExecution x), w)

/-- The record of an execution, or the error that there is none. -/
def requireExecution (e : Engine σ) (id : String) : Except Error Execution :=
  match e.ledger.get? id with
  | some x => .ok x
  | none => .error (Error.executionNotFound (.str id) .null)

end Engine

end Workflow
