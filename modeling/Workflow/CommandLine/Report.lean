import Workflow.CommandLine.Command
import Workflow.CommandLine.Flags
import Workflow.CommandLine.Layout
import Workflow.CommandLine.Panel
import Workflow.Engine
import Workflow.Json.Writing

/-!
# What commands do and show

Each command ends with an exit code and with what it shows: the outputs of an execution
as JSON, and tables and panels as lines.
-/

namespace Workflow

namespace CommandLine

/-- What is shown as the result. -/
inductive Shown where
  | text (s : String)
  | lines (ls : List String)
  deriving Repr

/-- What a command ends with. -/
inductive Report where
  /-- It ends with an exit code, a result, and lines that are shown beside the result. -/
  | ended (exitCode : Nat) (shown : Shown) (notes : List String)
  /-- It breaks off with a failure that no command reports. -/
  | broken (r : Raised)
  deriving Repr

namespace Report

/-- The arguments could not be used. -/
def misused (message : String) : Report :=
  .ended 2 (.lines []) [message]

/-- The report of lines, unless they cannot be shown. -/
def ofLines (exitCode : Nat) : Outcome (List String) -> Report
  | .ok lines => .ended exitCode (.lines lines) []
  | .error f => .broken (.fault f)

end Report

/-- The name and the number of this version. -/
def versionLine : String := "Stepflow v0.1.0"

/-- How the commands are used. -/
def usageLine : String :=
  "Usage: stepflow [--version] [--verbose] (run | validate | list) PATH [OPTIONS]"

/-! ## Running -/

/-- The outputs of an execution as a document of indented lines. -/
def documentStyle : Json.Style :=
  ⟨false, some "  ", ", ", ": ", false, true⟩

/-- The document of outputs; it is read back once, so that a repeated name counts once. -/
def documentOf (outputs : Value) : Outcome String := do
  let line <- Json.write Json.lineStyle outputs
  match Json.read line with
  | .ok v => do .ok ((<- Json.write documentStyle v) ++ "\n")
  | .error (.refused f) => .error f
  | .error (.malformed ..) => .ok (line ++ "\n")

/-- The lines of the panel of an error. -/
def errorLines (r : Raised) : Outcome (List String) := do
  let text <- panelText r
  .ok ((<- Markup.plain (panelTitle r)) :: Layout.linesOf text)

/-- The table of the steps of an execution, and how the execution ended. -/
def summaryLines (x : Execution) : Outcome (List String) := do
  let columns : List Layout.Column := [⟨"Step", none⟩, ⟨"Type", none⟩, ⟨"Status", none⟩,
    ⟨"Attempts", none⟩, ⟨"Duration", none⟩]
  let rows := x.stepResults.map fun r =>
    [r.stepId, r.stepType, r.status, toString r.attempts, Engine.durationText r.duration ++ "s"]
  let table <- Layout.table s!"Workflow: {x.workflowName}" columns rows
  let taken := Engine.durationText (x.duration?.getD 0.0)
  .ok (table ++ [s!"Execution {x.id} {x.status.name} in {taken}s"])

/-- Load a definition, register executors and execute it to its end. -/
def execute {σ : Type} (env : Environment) (files : Files) (path : Path)
    (inputs extra : List (Value × Value)) (plugins : Table (Plugin σ)) :
    StateM (World σ) (Except Raised Execution) := fun w =>
  match Settings.ofEnvironment env with
  | .error problems => (.error (.error (Settings.environmentError problems)), w)
  | .ok settings =>
      match Engine.create settings (Registry.empty : Registry σ) with
      | .error f => (.error (.fault f), w)
      | .ok e =>
          let stored := e.store.receive w.fresh.now (Loading.ofFile env files path)
          let w := { w with log := w.log ++ stored.log }
          match stored.result with
          | .error r => (.error r, w)
          | .ok d =>
              let e := { e with store := stored.store }
              match plugins.foldlM (fun (g : Registry σ) (type, p) =>
                  g.register type (.executor p)) e.registry with
              | .error r => (.error r, w)
              | .ok registry =>
                  let ((e, result), w) := { e with registry }.execute env d.name inputs extra w
                  (do
                    let s <- result
                    (e.requireExecution s.executionId).mapError .error, w)

/-- The report of an execution that ended. -/
def executionReport (jsonOnly : Bool) (x : Execution) : Report :=
  let parts : Outcome (List String × String) := do
    let notes <- if jsonOnly then .ok [] else summaryLines x
    .ok (notes, <- documentOf x.outputs)
  match parts with
  | .ok (notes, document) => .ended 0 (.text document) notes
  | .error f => .broken (.fault f)

/-- The report of something that was raised: errors of the engine are shown. -/
def raisedReport : Raised -> Report
  | .error e =>
      match errorLines (.error e) with
      | .ok lines => .ended 1 (.text "") lines
      | .error f => .broken (.fault f)
  | r => .broken r

/-- The report of a flag that cannot be used. -/
def flagReport : FlagFault -> Report
  | .usage message => .misused message
  | .raised r => raisedReport r

/-- Run the definition of a file. -/
def runCommand {σ : Type} (modules : Modules σ) (env : Environment) (files : Files)
    (request : RunRequest) (path : Path) : StateM (World σ) Report := fun w =>
  let flags : Except FlagFault (List (Value × Value) × List (Value × Value) × Table (Plugin σ)) :=
    do .ok (<- inputs request.inputs, <- inputs request.context,
      <- executors modules request.executors)
  match flags with
  | .error f => (flagReport f, w)
  | .ok (given, extra, plugins) =>
      match execute env files path given extra plugins w with
      | (.error r, w) => (raisedReport r, w)
      | (.ok x, w) =>
          (executionReport request.jsonOnly { x with outputs := w.objects.refresh x.outputs }, w)

/-! ## Checking -/

mutual

/-- The number of steps and of conditional steps in a step, its branches included. -/
def countStep : Step -> Nat × Nat
  | ⟨_, type, _, _, _, _, _, _, ifTrue, ifFalse, _⟩ =>
      let (n, k) := countBranch ifTrue
      let (m, l) := countBranch ifFalse
      (1 + n + m, (if type == Step.conditionalType then 1 else 0) + k + l)

/-- The number of steps and of conditional steps in a branch. -/
def countBranch : Option (List Step) -> Nat × Nat
  | none => (0, 0)
  | some steps => countSteps steps

/-- The number of steps and of conditional steps in a list. -/
def countSteps : List Step -> Nat × Nat
  | [] => (0, 0)
  | s :: rest =>
      let (n, k) := countStep s
      let (m, l) := countSteps rest
      (n + m, k + l)

end

/-- A text that is there and not empty. -/
def present (o : Option String) : List String :=
  (present? o).toList

/-- The rows that sum up a definition. -/
def overviewRows (d : Definition) (path : Path) : List (String × String) :=
  let (total, conditionals) := countSteps d.steps
  let retrying := (d.steps.filter fun s => s.onError == .retry).length
  let number (label : String) (n : Nat) : List (String × String) :=
    if n == 0 then [] else [(label, toString n)]
  let inputNames := d.inputs.map fun (name, i) => if i.required then name ++ "*" else name
  let outputNames := (d.outputs.getD []).map (·.1)
  [("Name", d.name)] ++ (present d.version).map (("Version", ·))
    ++ (present d.description).map (("Description", ·))
    ++ [("File", path.text), ("Steps", toString d.steps.length)]
    ++ (if total == d.steps.length then [] else [("Steps (incl. branches)", toString total)])
    ++ number "Conditionals" conditionals ++ number "Retrying steps" retrying
    ++ (if inputNames.isEmpty then [] else [("Inputs", ", ".intercalate inputNames)])
    ++ [("Outputs", if outputNames.isEmpty then "last step" else ", ".intercalate outputNames)]

/-- The table of the steps of a definition. -/
def stepTable (d : Definition) : Outcome (List String) :=
  let rows := d.steps.map fun s =>
    [s.id, s.type, s.onError.name, (present? s.description).getD "-"]
  Layout.table "Steps"
    [⟨"Id", none⟩, ⟨"Type", some 14⟩, ⟨"On Error", some 10⟩, ⟨"Description", none⟩] rows

/-- The panel of a definition that cannot be loaded. -/
def failurePanel (e : Error) (path : Path) : Outcome (List String) :=
  let name := e.kind.name
  let advice := (present e.suggestion.asText?).map fun s => s!"\n\n[yellow]💡 Suggestion:[/yellow] {s}"
  Layout.panel "[red]Validation Failed[/red]" (Layout.markupLines
    (s!"[bold red]{name}[/bold red]\n\n[dim]File:[/dim] {path.text}\n\n" ++ e.message
      ++ "".intercalate advice))

/-- Check the definition of a file. -/
def validateCommand {σ : Type} (env : Environment) (files : Files) (path : Path) :
    StateM (World σ) Report := fun w =>
  let l := Loading.ofFile env files path
  let w := l.logLines.foldl (fun w s => w.logged .warning s) w
  match l.result with
  | .ok d =>
      let parts : Outcome (List String) := do
        let overview <- Layout.panel "[green]Validation Successful[/green]"
          (Layout.grid (overviewRows d path))
        let steps <- stepTable d
        let warnings <- (l.warnings.getD []).mapM fun s =>
          Layout.markupLines s!"[yellow]⚠ Warning:[/yellow] {s}"
        .ok (overview ++ steps ++ warnings.flatten)
      (.ofLines 0 parts, w)
  | .error (.error e) => (.ofLines 1 (failurePanel e path), w)
  | .error r => (.broken r, w)

/-! ## Listing -/

/-- The table of the definitions in a store. -/
def storeTable (s : Store) : Outcome (List String) :=
  let rows := s.map fun (_, d) =>
    let inputNames := ", ".intercalate (d.inputs.map (·.1))
    [d.name, (present? d.version).getD "-", toString d.steps.length,
      if inputNames.isEmpty then "-" else inputNames,
      ((present? d.sourcePath).map fun p => (Path.ofText p).name).getD "-"]
  Layout.table "Workflows" [⟨"Name", none⟩, ⟨"Version", none⟩, ⟨"Steps", none⟩,
    ⟨"Inputs", none⟩, ⟨"Source", none⟩] rows

/-- The panel of a file that could not be loaded. -/
def filePanel (path : String) (e : Error) : Outcome (List String) :=
  let name := e.kind.name
  Layout.panel s!"[red]{(Path.ofText path).name}[/red]"
    (Layout.markupLines (s!"[bold red]{name}[/bold red]\n\n" ++ e.message))

/-- List the definitions in a folder. -/
def listCommand {σ : Type} (env : Environment) (files : Files) (path : Path) :
    StateM (World σ) Report := fun w =>
  let stored := Store.receiveFolder env files w.fresh.now ([] : Store) path
  let w := { w with log := w.log ++ stored.log }
  match stored.result with
  | .ok f =>
      let parts : Outcome (List String) := do
        let first <-
          if f.loaded.isEmpty then .ok ["No workflows found."] else storeTable stored.store
        let panels <- f.errors.mapM fun (p, e) => filePanel p e
        .ok (first ++ panels.flatten)
      (.ofLines (if f.ok then 0 else 1) parts, w)
  | .error r => (.broken r, w)

/-! ## Commands -/

/-- What a path must lead to. -/
inductive Wanted where
  | file
  | folder
  deriving Repr, DecidableEq

/-- The full path of an operand that leads to what is wanted. -/
def resolved? (files : Files) (wanted : Wanted) (operand : String) : Option Path :=
  let path := Path.resolve files.home (Path.ofText operand)
  match files.entryAt? path.parts, wanted with
  | some (.file _), .file => some path
  | some .folder, .folder => some path
  | _, _ => none

/-- Go on with the path of an operand that leads to what is wanted. -/
def withPath {σ : Type} (files : Files) (wanted : Wanted) (operand : String)
    (go : Path -> StateM (World σ) Report) : StateM (World σ) Report :=
  match resolved? files wanted operand with
  | some path => go path
  | none => pure (.misused s!"Invalid path: '{operand}'")

/-- Do what a command asks for. -/
def perform {σ : Type} (modules : Modules σ) (env : Environment) (files : Files) :
    Command -> StateM (World σ) Report
  | .version => pure (.ended 0 (.lines [versionLine]) [])
  | .help => pure (.ended 0 (.lines [usageLine]) [])
  | .misused => pure (.misused usageLine)
  | .run r => withPath files .file r.path (runCommand modules env files r)
  | .validate path => withPath files .file path (validateCommand env files)
  | .list path => withPath files .folder path (listCommand env files)

end CommandLine

end Workflow
