import Workflow.Definition.Loading
import Workflow.Table
import Workflow.World

/-!
# The store of definitions

The store holds one definition under each name.  Storing a definition whose name is
taken replaces the old one, and a definition that cannot be loaded changes nothing.
-/

namespace Workflow

/-- Definitions by name. -/
abbrev Store := Table Definition

/-- What storing came to: the store, what is logged, and the result. -/
structure Stored (α : Type) where
  store : Store
  log : List LogLine
  result : Except Raised α

/-- What loading a folder came to. -/
structure FolderLoad where
  /-- The names of the definitions that were stored, in the order of their files. -/
  loaded : List String
  /-- The files that could not be loaded, with the reasons. -/
  errors : List (String × Error)

namespace FolderLoad

/-- Nothing was loaded yet. -/
def empty : FolderLoad := ⟨[], []⟩

/-- Whether every file was loaded. -/
def ok (f : FolderLoad) : Bool :=
  f.errors.isEmpty

end FolderLoad

namespace Store

/-- Store a definition, which then knows when it was stored. -/
def keep (s : Store) (now : DateTime) (d : Definition) : Stored Definition :=
  let d := { d with loadedAt := some now }
  let line := if s.has d.name then s!"Replacing workflow '{d.name}'"
    else s!"Loaded workflow '{d.name}'"
  ⟨s.put d.name d, [⟨.info, line⟩], .ok d⟩

/-- Store a definition that was loaded. -/
def receive (s : Store) (now : DateTime) (l : Loading.Loaded) : Stored Definition :=
  let warnings := l.logLines.map fun line => ⟨.warning, line⟩
  match l.result with
  | .error r => ⟨s, warnings, .error r⟩
  | .ok d =>
      let stored := s.keep now d
      { stored with log := warnings ++ stored.log }

/-- The files of definitions in a folder, sorted by name. -/
def definitionFiles (files : Files) (folder : Path) : List Path :=
  let paths := ((files.names folder).mergeSort (· ≤ ·)).map folder.child
  paths.filter fun p =>
    (Format.ofSuffix? p.suffix).isSome && match files.find? p with
      | some (.file _) => true
      | _ => false

/-- The warning on a file that could not be loaded. -/
def failureLine (path : Path) (e : Error) : LogLine :=
  ⟨.warning, s!"Failed to load workflow file {path.name}: {e.message}"⟩

/-- Whether an error is about a definition that cannot be loaded. -/
def isLoadError (e : Error) : Bool :=
  match e.kind with
  | .load .. => true
  | _ => false

/-- Load files one after another; a file with an error is noted and passed over. -/
def receiveFiles (env : Environment) (files : Files) (now : DateTime) (s : Store)
    (done : FolderLoad) : List Path -> Stored FolderLoad
  | [] => ⟨s, [], .ok done⟩
  | path :: rest =>
      let step := s.receive now (Loading.ofFile env files path)
      let continueWith (done : FolderLoad) (log : List LogLine) : Stored FolderLoad :=
        let more := receiveFiles env files now step.store done rest
        { more with log := log ++ more.log }
      match step.result with
      | .ok d => continueWith { done with loaded := done.loaded ++ [d.name] } step.log
      | .error (.error e) =>
          if isLoadError e then
            continueWith { done with errors := done.errors ++ [(path.text, e)] }
              (step.log ++ [failureLine path e])
          else ⟨step.store, step.log, .error (.error e)⟩
      | .error r => ⟨step.store, step.log, .error r⟩

/-- The line that is logged when a folder was loaded. -/
def folderLine (folder : Path) (f : FolderLoad) : LogLine :=
  let failures := if f.ok then "" else s!" ({f.errors.length} failed)"
  ⟨.info, s!"Loaded {f.loaded.length} workflow(s) from {folder.text}{failures}"⟩

/-- The error of a path that is no folder. -/
def noFolder (folder : Path) : Error :=
  Error.load s!"Workflow directory not found: {folder.text}" (some "Check the directory path")
    (some folder.text) none

/-- Load every definition in a folder. -/
def receiveFolder (env : Environment) (files : Files) (now : DateTime) (s : Store)
    (folder : Path) : Stored FolderLoad :=
  match files.find? folder with
  | some .folder =>
      let all := receiveFiles env files now s .empty (definitionFiles files folder)
      match all.result with
      | .ok f => { all with log := all.log ++ [folderLine folder f] }
      | .error _ => all
  | _ => ⟨s, [], .error (.error (noFolder folder))⟩

end Store

end Workflow
