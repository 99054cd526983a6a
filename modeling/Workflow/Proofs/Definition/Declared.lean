import Workflow.Proofs.Definition.Loading
import Workflow.Proofs.Definition.Rereading
import Workflow.Proofs.Store.Failure
import Workflow.Proofs.Value.Marks

/-!
# Declared inputs of loaded definitions

A value that is not of the type it was asked for is called something else than that type,
and a definition that was loaded declares each input once, with a default of its type or
none.  This stays so in a store, and also when an execution shares the defaults.
-/

namespace Workflow

/-! ## Types and what values are called -/

namespace Value

/-- More is known of a value than the name of its type. -/
def Known : Value -> Prop
  | foreign _ => False
  | stream .. => False
  | object _ content => content.Known
  | _ => True

theorem Known.bare {v : Value} (known : v.Known) : v.bare.Known := by
  cases v <;> exact known

end Value

namespace InputType

end InputType

/-! ## Declared inputs -/

/-- The default of a declared input is of its type, or there is none. -/
def HasDefault (i : String × Input) : Prop :=
  i.2.default = .null ∨ i.2.type.admits i.2.default = true

/-- Inputs are declared once, each with a default of its type or none. -/
structure Declares (declared : List (String × Input)) : Prop where
  once : (Table.names declared).Nodup
  defaults : ∀ i ∈ declared, HasDefault i

namespace Schema

end Schema

/-! ## Defaults that executions share -/

namespace Objects.Marked

variable {o : Objects} {v w : Value}

theorem eq_null (h : o.Marked .null w) : w = .null := by
  cases h <;> rfl

/-- Marks do not change which types take a value. -/
theorem admits (h : o.Marked v w) (t : InputType) : t.admits w = t.admits v := by
  cases h with
  | kept => rfl
  | @given n => exact Objects.alike_adopt { o with next := n } v t

end Objects.Marked

/-- A declared input, and the same one with the marks that its default got. -/
def SharesDefault (o : Objects) (i j : String × Input) : Prop :=
  ∃ default, o.Marked i.2.default default ∧ j = (i.1, { i.2 with default })

theorem SharesDefault.hasDefault {o : Objects} {i j : String × Input} (h : SharesDefault o i j)
    (declared : HasDefault i) : HasDefault j := by
  obtain ⟨default, marked, rfl⟩ := h
  rcases declared with none | fits
  · exact .inl (none ▸ marked).eq_null
  · exact .inr ((marked.admits i.2.type).trans fits)

/-- Inputs stay declared as they are when their defaults get marks. -/
theorem Declares.share {o : Objects} {declared marked : List (String × Input)}
    (h : Declares declared) (shared : List.Forall₂ (SharesDefault o) declared marked) :
    Declares marked := by
  have names : declared.map Prod.fst = marked.map Prod.fst := by
    rw [← List.forall₂_eq_eq_eq, List.forall₂_map_left_iff, List.forall₂_map_right_iff]
    exact shared.imp fun i j ⟨_, _, same⟩ => by rw [same]
  refine ⟨by rw [Table.names, ← names]; exact h.once, ?_⟩
  have defaults := h.defaults
  clear names h
  induction shared with
  | nil => exact List.forall_mem_nil _
  | cons first _ ih =>
      rw [List.forall_mem_cons] at defaults ⊢
      exact ⟨first.hasDefault defaults.1, ih defaults.2⟩

/-! ## Loaded definitions -/

/--
A definition that was loaded, as it was read, as a store keeps it, or with the marks that
executions gave its defaults.
-/
inductive Definition.Loaded : Definition -> Prop where
  | read {env source v d} (h : (Loading.ofValue env source v).result = .ok d) : Loaded d
  | kept {d} (now : DateTime) (h : Loaded d) : Loaded { d with loadedAt := some now }
  | shared {d} (o : Objects) (h : Loaded d) :
      Loaded { d with inputs := (Engine.adoptDefaults o d.inputs).1 }

namespace Loading

variable {env : Environment} {source : Option String} {d : Definition}

theorem loaded_of_ofText {format : Option Format} {content : String}
    (h : (ofText env format source content).result = .ok d) : d.Loaded := by
  obtain ⟨_, _, read⟩ := ofText_ok h
  exact .read read

theorem loaded_of_ofFile {files : Files} {path : Path}
    (h : (ofFile env files path).result = .ok d) : d.Loaded := by
  unfold ofFile at h
  split at h
  · cases h
  · split at h
    · cases h
    · exact loaded_of_ofText h

end Loading

/-- Every definition in a store was loaded. -/
def Store.Loaded (s : Store) : Prop :=
  ∀ name d, s.get? name = some d -> d.Loaded

namespace Store.Loaded

variable {s : Store} {env : Environment} {files : Files} {now : DateTime}

theorem put (h : Store.Loaded s) (name : String) {d : Definition} (loaded : d.Loaded) :
    Store.Loaded (s.put name d) := by
  intro other d' found
  by_cases same : name = other
  · subst same
    rw [Table.get?_put_self] at found
    cases found
    exact loaded
  · rw [Table.get?_put_of_ne s d same] at found
    exact h other d' found

theorem receive (h : Store.Loaded s) {l : Loading.Loaded}
    (loaded : ∀ d, l.result = .ok d -> d.Loaded) : Store.Loaded (s.receive now l).store := by
  unfold Store.receive
  split
  · exact h
  · next d result => exact h.put d.name (.kept now (loaded d result))

theorem receiveFiles (h : Store.Loaded s) (paths : List Path) (done : FolderLoad) :
    Store.Loaded (s.receiveFiles env files now done paths).store := by
  induction paths generalizing s done with
  | nil => exact h
  | cons path rest ih =>
      have received : Store.Loaded (s.receive now (Loading.ofFile env files path)).store :=
        h.receive fun d => Loading.loaded_of_ofFile
      unfold Store.receiveFiles
      dsimp only
      split
      · exact ih received _
      · split
        · exact ih received _
        · exact received
      · exact received

theorem receiveFolder (h : Store.Loaded s) (folder : Path) :
    Store.Loaded (s.receiveFolder env files now folder).store := by
  have all : Store.Loaded
      (s.receiveFiles env files now .empty (definitionFiles files folder)).store :=
    h.receiveFiles _ _
  unfold Store.receiveFolder
  split
  · dsimp only
    split <;> exact all
  · exact h

end Store.Loaded

namespace Engine

variable {σ : Type} {e : Engine σ}

/-- An execution leaves definitions that were loaded. -/
theorem execute_loaded (h : e.store.Loaded) (env : Environment) (name : String)
    (inputs extra : List (Value × Value)) (w : World σ) :
    (execute e env name inputs extra w).1.1.store.Loaded := by
  have prepared : (prepare e name inputs w).1.1.store.Loaded := by
    unfold prepare
    split
    · exact h
    · next d found => exact h.put name (.shared w.objects (h name d found))
  unfold execute
  split
  · next same => rwa [same] at prepared
  · next same => rwa [same] at prepared

end Engine

end Workflow
