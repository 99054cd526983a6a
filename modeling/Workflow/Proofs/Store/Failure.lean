import Workflow.Engine
import Workflow.Proofs.Store.Folder

/-!
# What a refused load leaves

A load that ends with an error about loading leaves the definitions of an engine as they
were, in whatever way it was asked for, with one exception: loading the folder of the
settings again forgets all definitions first, and they stay forgotten when there is no
such folder.
-/

namespace Workflow

/-- What an engine can be asked to load. -/
inductive LoadRequest where
  /-- The definition that a text holds. -/
  | text (format : Option Format) (content : String)
  /-- The definition that the entries of a dictionary are. -/
  | entries (entries : List (Value × Value))
  /-- The definition that a file holds. -/
  | file (path : Path)
  /-- Every definition in a folder. -/
  | folder (path : Path)
  /-- The folder of the settings, the first time. -/
  | startUp
  /-- The folder of the settings, in place of all definitions. -/
  | reload

/-- What a request leaves of the definitions before it loads anything. -/
def LoadRequest.base (s : Store) : LoadRequest -> Store
  | .reload => []
  | _ => s

namespace Store

variable {s : Store} {now : DateTime} {l : Loading.Loaded} {r : Raised}

theorem receive_store_of_error (h : (s.receive now l).result = .error r) :
    (s.receive now l).store = s := by
  unfold receive at h ⊢
  split at h
  · rfl
  · cases h

/-- Loading a folder is refused only when there is none, so nothing was stored. -/
theorem receiveFolder_store_of_refusal {env : Environment} {files : Files} {folder : Path}
    (h : (s.receiveFolder env files now folder).result = .error r) (refused : r.IsRefusal) :
    (s.receiveFolder env files now folder).store = s := by
  by_cases found : files.find? folder = some .folder
  · have ended := outcome_receiveFolder found env now s
    have result : (receiveFiles env files now s .empty (definitionFiles files folder)).outcome.2 =
        .error r := by
      rw [← ended]
      exact h
    rcases legible_or_split env files (definitionFiles files folder) with
      legible | ⟨front, path, back, split, before, stuck⟩
    · rw [receiveFiles_of_legible legible] at result
      cases result
    · -- A file that ends the load does so with a fault, which is no refusal.
      rw [split] at result
      obtain ⟨f, hf⟩ : ∃ f, (receiveFiles env files now s .empty (front ++ path :: back)).outcome =
          (s.keepAll now (loadedFrom env files front), .error (.fault f)) :=
        receiveFiles_of_not_legible before stuck
      rw [hf] at result
      cases result
      obtain ⟨e, he, _⟩ := refused
      cases he
  · unfold receiveFolder
    split
    · contradiction
    · rfl

end Store

namespace Engine

variable {σ : Type}

/-- Load what is asked for. -/
def load (e : Engine σ) (env : Environment) (files : Files) (now : DateTime) :
    LoadRequest -> Engine σ × Except Raised Unit
  | .text format content => stored (e.store.receive now (Loading.ofText env format none content))
  | .entries entries => stored (e.store.receive now (Loading.ofValue env none (.dict entries)))
  | .file path => stored (e.store.receive now (Loading.ofFile env files path))
  | .folder path => stored (e.store.receiveFolder env files now path)
  | .startUp => begun (e.startUp env files now)
  | .reload => begun (e.reload env files now)
where
  stored {α : Type} (x : Stored α) : Engine σ × Except Raised Unit :=
    ({ e with store := x.store }, x.result.map fun _ => ())
  begun (x : Engine σ × List LogLine × Except Raised (Option FolderLoad)) :
      Engine σ × Except Raised Unit :=
    (x.1, x.2.2.map fun _ => ())

section Load

variable {e : Engine σ} {env : Environment} {files : Files} {now : DateTime}
  {request : LoadRequest} {r : Raised}

theorem error_of_map {α : Type} {x : Except Raised α} (h : (x.map fun _ => ()) = .error r) :
    x = .error r := by
  cases x with
  | ok a => cases h
  | error s =>
      cases h
      rfl

theorem startUp_store_of_refusal (h : (e.startUp env files now).2.2 = .error r)
    (refused : r.IsRefusal) : (e.startUp env files now).1.store = e.store := by
  by_cases done : e.initialized = true
  · simp only [startUp, done, if_true]
  · simp only [startUp, done, Bool.false_eq_true, if_false] at h ⊢
    cases place : e.settings.workflowsDir with
    | none => rfl
    | some folder =>
        simp only [place] at h ⊢
        cases failed : (e.store.receiveFolder env files now folder).result with
        | ok f => rw [failed] at h; cases h
        | error r' =>
            simp only [failed] at h ⊢
            cases h
            exact Store.receiveFolder_store_of_refusal failed refused

/-- A refused load leaves the definitions that it started from. -/
theorem load_store_of_refusal (h : (e.load env files now request).2 = .error r)
    (refused : r.IsRefusal) : (e.load env files now request).1.store = request.base e.store := by
  cases request with
  | text format content => exact Store.receive_store_of_error (error_of_map h)
  | entries entries => exact Store.receive_store_of_error (error_of_map h)
  | file path => exact Store.receive_store_of_error (error_of_map h)
  | folder path => exact Store.receiveFolder_store_of_refusal (error_of_map h) refused
  | startUp => exact startUp_store_of_refusal (error_of_map h) refused
  | reload =>
      exact startUp_store_of_refusal (e := { e with store := [], initialized := false })
        (error_of_map h) refused

/--
After a refused load the same names are listed and each stands for the same definition as
before, unless the folder of the settings was to be loaded again and there was something
to forget.
-/
theorem load_keeps_iff (h : (e.load env files now request).2 = .error r)
    (refused : r.IsRefusal) :
    let after := (e.load env files now request).1.store
    (after.names = e.store.names ∧ ∀ name, after.get? name = e.store.get? name) ↔
      (request = .reload → e.store = []) := by
  intro after
  have left : after = request.base e.store := load_store_of_refusal h refused
  rw [left]
  cases request with
  | reload =>
      constructor
      · rintro ⟨listed, _⟩ _
        exact List.map_eq_nil_iff.mp listed.symm
      · intro forgotten
        rw [forgotten rfl]
        exact ⟨rfl, fun _ => rfl⟩
  | _ =>
      constructor
      · rintro _ ⟨⟩
      · exact fun _ => ⟨rfl, fun _ => rfl⟩

end Load

/-- An engine with one definition, whose settings name a folder. -/
def settled : Engine Unit :=
  ⟨{ Settings.standard with workflowsDir := some (.ofText "flows") },
    [("w", ⟨"w", none, none, [], none, .null, [.plain "a" "output"], none, none⟩)], ⟨none, []⟩,
    ⟨[], false⟩, false⟩

/-- What a request comes to where there are no files. -/
def settledLoad (request : LoadRequest) : Engine Unit × Except Raised Unit :=
  settled.load [] ⟨⟨"/", ["home"]⟩, []⟩ ⟨⟨2024, 1, 2⟩, 3, 4, 5, 0, none⟩ request

/-- The text of a definition without steps. -/
def stepless : LoadRequest :=
  .text (some .json) "\x7b\"name\": \"w\", \"steps\": []\x7d"

/-- Whether what a request comes to is a refusal. -/
def isRefused : Except Raised Unit -> Bool
  | .error (.error e) => Store.isLoadError e
  | _ => false

theorem refusal_of_isRefused {x : Except Raised Unit} (h : isRefused x = true) :
    ∃ r, x = .error r ∧ r.IsRefusal := by
  unfold isRefused at h
  split at h
  · next e => exact ⟨.error e, rfl, e, rfl, h⟩
  · cases h

theorem load_keeps_iff_stepless :
    ∃ r, (settledLoad stepless).2 = .error r ∧ r.IsRefusal ∧
      (settledLoad stepless).1.store.names = ["w"] := by
  have ended : isRefused (settledLoad stepless).2 = true := by decide +kernel
  obtain ⟨r, failed, refused⟩ := refusal_of_isRefused ended
  refine ⟨r, failed, refused, ((load_keeps_iff failed refused).mpr ?_).1⟩
  intro reloading
  cases reloading

/-- To load the folder again, an engine forgets what it has, though there is no such folder. -/
theorem reload_forgets :
    ∃ r, (settledLoad .reload).2 = .error r ∧ r.IsRefusal ∧ settled.store.names = ["w"] ∧
      (settledLoad .reload).1.store.names = [] :=
  ⟨_, rfl, ⟨_, rfl, rfl⟩, rfl, rfl⟩

end Engine

end Workflow
