import Workflow.Proofs.Dispatch.Failing
import Workflow.Proofs.Execution.Fatal

/-!
# How executions stop

An execution that started raises something only because one of its steps did, or because
its outputs could not be made.  Its record notes the same, and an error that comes out
carries the ids of the execution and of the step that the record notes.  A fault comes out
exactly where it comes up in a step of the execution itself, outside of its attempts, or
in the outputs.
-/

namespace Workflow

open Effect (bind_error)

namespace Engine

open Dispatcher (Slips took took_fault_iff)

variable {σ : Type}

/-! ## What stops an execution -/

/-- What a step of an execution raises, its dispatch raised, or it had been recorded before. -/
theorem advance_error {d : Dispatcher σ} {p : Progress} {step : Step} {w v : World σ} {r : Raised}
    (h : advance d p step w = .error r v) :
    d.dispatch p.context step w = .error r v ∨
      ∃ o u e, d.dispatch p.context step w = .ok o u ∧ p.context.records.has step.id = true ∧
        r = .error e ∧ e.stepId = .null ∧ e.kind.executor? = none := by
  rcases bind_error h with failed | ⟨o, u, passed, later⟩
  · exact .inl failed
  · rcases bind_error later with read | ⟨now, _, read, later⟩
    · cases read
    · cases read
      rcases bind_error later with refused | ⟨_, _, _, none⟩
      · obtain ⟨same, rfl⟩ := Run.ofExcept_error refused
        by_cases taken : p.context.records.has step.id
        · simp only [Context.record, taken, if_true, Except.mapError, Except.error.injEq] at same
          exact .inr ⟨o, v, _, passed, taken, same.symm, rfl, rfl⟩
        · simp only [Context.record, taken, Bool.false_eq_true, if_false, Except.mapError] at same
          cases same
      · cases none

/-- What stops some steps was raised by one whose turn came. -/
theorem visit_of_stop {d : Dispatcher σ} {p q : Progress} {steps : List Step} {s : Stop}
    {w v : World σ} (h : advanceAll d p steps w = ((q, some s), v)) :
    ∃ visit ∈ visits d p steps w,
      advance d visit.progress visit.step visit.world = .error s.raised v ∧
        s.step = some visit.step.id := by
  induction steps generalizing p w with
  | nil => cases h
  | cons step rest ih =>
      cases ha : advance d p step w with
      | ok t u =>
          rw [advanceAll_cons_ok _ ha] at h
          obtain ⟨visit, later, failed, same⟩ := ih h
          refine ⟨visit, ?_, failed, same⟩
          rw [visits_cons_ok _ ha]
          exact List.mem_cons_of_mem _ later
      | error r u =>
          rw [advanceAll_cons_error _ ha] at h
          cases h
          refine ⟨⟨step, _, w⟩, ?_, ha, rfl⟩
          rw [visits_cons_error _ ha]
          exact List.mem_cons_self

/-- The outputs of an execution cannot be made, once all its steps have passed. -/
def OutputsFail (e : Engine σ) (l : Launch σ) (r : Raised) : Prop :=
  ∃ p u v, advanceAll e.dispatcher ⟨l.context, []⟩ l.definition.steps l.world = ((p, none), u) ∧
    outputsOf l.definition p.context u = .error r v

/-- Outputs fail with faults of their tokens. -/
theorem OutputsFail.fault {e : Engine σ} {l : Launch σ} {r : Raised} (h : OutputsFail e l r) :
    ∃ f, r = .fault f := by
  obtain ⟨p, u, v, -, failed⟩ := h
  unfold outputsOf at failed
  cases declared : l.definition.outputs with
  | none => simp only [declared] at failed; cases failed
  | some outputs =>
      simp only [declared] at failed
      rcases bind_error failed with looked | ⟨_, _, _, later⟩
      · cases looked
      · rcases bind_error later with resolved | ⟨_, _, _, owned⟩
        · exact Run.resolving_error resolved
        · cases owned

/-- What stops an execution that started. -/
inductive Halts (e : Engine σ) (l : Launch σ) : Stop -> Prop where
  | step {visit : Visit σ} {r : Raised} {v : World σ}
      (visited : visit ∈ visits e.dispatcher ⟨l.context, []⟩ l.definition.steps l.world)
      (failed : advance e.dispatcher visit.progress visit.step visit.world = .error r v) :
      Halts e l ⟨some visit.step.id, r⟩
  | outputs {r : Raised} (failed : OutputsFail e l r) : Halts e l ⟨none, r⟩

section Launched

variable {e : Engine σ} {env : Environment} {name : String} {inputs extra : List (Value × Value)}
  {w : World σ} {l : Launch σ} {r : Raised}

/-- What stops an execution is raised, and the record notes it. -/
theorem execute_of_halts (launched : launch? e env name inputs extra w = some l) {s : Stop}
    (h : Halts e l s) :
    let told := noteOf w.fresh.issue.1 s
    (execute e env name inputs extra w).1.2 = .error told.2 ∧
      ∃ x : Execution, (execute e env name inputs extra w).1.1.ledger.get? w.fresh.issue.1 = some x ∧
        x.status = .failed ∧ x.failure = some told.1 := by
  obtain ⟨kept, result, -, id, -⟩ := execute_of_launch launched
  rw [id] at kept
  cases h with
  | step visited failed =>
      obtain ⟨stopped, -⟩ := advanceAll_of_visit visited failed
      simp only [runToEnd, stopped, id] at kept result
      exact ⟨result, _, kept, rfl, rfl⟩
  | outputs failed =>
      obtain ⟨p, u, v, passed, failed⟩ := failed
      simp only [runToEnd, passed, failed, id] at kept result
      exact ⟨result, _, kept, rfl, rfl⟩

/-- An execution raises what stops it. -/
theorem halts_of_execute (launched : launch? e env name inputs extra w = some l)
    (raised : (execute e env name inputs extra w).1.2 = .error r) :
    ∃ s, Halts e l s ∧ r = (noteOf w.fresh.issue.1 s).2 := by
  obtain ⟨-, result, -, id, -⟩ := execute_of_launch launched
  rw [raised] at result
  rcases ha : advanceAll e.dispatcher ⟨l.context, []⟩ l.definition.steps l.world with
    ⟨⟨p, _ | s⟩, u⟩
  · cases ho : outputsOf l.definition p.context u with
    | ok outputs v => simp only [runToEnd, ha, ho] at result; cases result
    | error r' v =>
        simp only [runToEnd, ha, ho, id] at result
        cases result
        exact ⟨_, .outputs ⟨p, u, v, ha, ho⟩, rfl⟩
  · obtain ⟨visit, visited, failed, place⟩ := visit_of_stop ha
    obtain ⟨step, raisedBy⟩ := s
    obtain rfl : step = some visit.step.id := place
    simp only [runToEnd, ha, id] at result
    cases result
    exact ⟨_, .step visited failed, rfl⟩

end Launched

/-! ## What comes out -/

/-- What is told of an execution that stopped fits together. -/
inductive Told (id : String) (note : FailureNote) : Raised -> Prop where
  /-- An error carries the execution, and the step that the record notes. -/
  | error {err : Error} (execution : err.executionId = .str id) (step : err.stepId = note.step)
      (type : note.type = err.kind.name) (message : note.message = err.content) :
      Told id note (.error err)
  | cancelled (type : note.type = "CancelledError") : Told id note .cancelled
  /-- A fault carries neither. -/
  | fault {f : Fault} (type : note.type = f.name) (message : note.message = .str f.message) :
      Told id note (.fault f)

theorem told_noteOf (id : String) (s : Stop) : Told id (noteOf id s).1 (noteOf id s).2 := by
  obtain ⟨step, r⟩ := s
  cases r with
  | error e => exact .error rfl rfl rfl rfl
  | fault f => exact .fault rfl rfl
  | cancelled => exact .cancelled rfl

/-- Only a fault is told as one. -/
theorem noteOf_fault {id : String} {s : Stop} {f : Fault} (h : (noteOf id s).2 = .fault f) :
    s.raised = .fault f := by
  obtain ⟨step, r⟩ := s
  cases r with
  | error e => cases h
  | fault g => cases h; rfl
  | cancelled => cases h

section Raising

variable {e : Engine σ} {env : Environment} {name : String} {inputs extra : List (Value × Value)}
  {w : World σ} {l : Launch σ}

theorem halts_fault_iff {f : Fault} :
    (∃ step, Halts e l ⟨step, .fault f⟩) ↔
      (∃ visit ∈ visits e.dispatcher ⟨l.context, []⟩ l.definition.steps l.world,
        Slips e.dispatcher visit.progress.context ⟨visit.step, [], visit.world⟩ f) ∨
      OutputsFail e l (.fault f) := by
  constructor
  · rintro ⟨step, halts⟩
    cases halts with
    | step visited failed =>
        rcases advance_error failed with raised | ⟨_, _, _, _, _, same, _⟩
        · exact .inl ⟨_, visited, took_fault_iff.mp ⟨_, raised⟩⟩
        · cases same
    | outputs failed => exact .inr failed
  · rintro (⟨visit, visited, slips⟩ | failed)
    · obtain ⟨v, raised⟩ := took_fault_iff.mpr slips
      exact ⟨_, .step visited (advance_of_dispatch_error raised)⟩
    · exact ⟨_, .outputs failed⟩

/--
An execution that started and raises something has a failed record that notes the same
step.  An error comes out with the ids of the execution and of that step.  Otherwise it
was cancelled, or a fault came out; and this happens exactly when the configuration or a
delay of one of its own steps is at fault, or when its outputs are.
-/
theorem execute_traceable (launched : launch? e env name inputs extra w = some l) {r : Raised}
    (raised : (execute e env name inputs extra w).1.2 = .error r) :
    (∃ x note, (execute e env name inputs extra w).1.1.ledger.get? w.fresh.issue.1 = some x ∧
      x.status = .failed ∧ x.failure = some note ∧ Told w.fresh.issue.1 note r) ∧
    ∀ f, r = .fault f ↔
      (∃ visit ∈ dispatches e env name inputs extra w,
        Slips e.dispatcher visit.progress.context ⟨visit.step, [], visit.world⟩ f) ∨
      OutputsFail e l (.fault f) := by
  obtain ⟨s, halts, rfl⟩ := halts_of_execute launched raised
  obtain ⟨-, x, kept, failed, noted⟩ := execute_of_halts launched halts
  refine ⟨⟨x, _, kept, failed, noted, told_noteOf _ s⟩, fun f => ?_⟩
  simp only [dispatches, launched]
  rw [← halts_fault_iff]
  constructor
  · intro same
    have fault := noteOf_fault same
    obtain ⟨step, r⟩ := s
    obtain rfl : r = .fault f := fault
    exact ⟨step, halts⟩
  · rintro ⟨step, other⟩
    have same := (execute_of_halts launched other).1
    rw [raised] at same
    exact Except.error.inj same

end Raising

/-- The fault that an execution raised. -/
def faultOf (result : Except Raised Summary) : Option Fault :=
  match result with
  | .error (.fault f) => some f
  | _ => none

theorem eq_of_faultOf {result : Except Raised Summary} {f : Fault} (h : faultOf result = some f) :
    result = .error (.fault f) := by
  match result, h with
  | .error (.fault _), rfl => rfl

/-- A step whose configuration reads the item of a list at a digit that is no number. -/
def squared : Step :=
  { Step.plain "a" "output" with config := .str "\x7b\x7b inputs.xs.² \x7d\x7d" }

/-- An input that is a list with one item. -/
def oneItem : List (Value × Value) :=
  [(.str "xs", .list [.int 1])]

theorem faultOf_squared : faultOf (execute (withSteps [squared]) [] "w" oneItem [] dawn).1.2 =
    some (.badValue "invalid literal for int() with base 10: '²'") := by
  decide +kernel

theorem execute_traceable_squared :
    ∃ l f, launch? (withSteps [squared]) [] "w" oneItem [] dawn = some l ∧
      (execute (withSteps [squared]) [] "w" oneItem [] dawn).1.2 = .error (.fault f) ∧
      ((∃ visit ∈ dispatches (withSteps [squared]) [] "w" oneItem [] dawn,
          Slips (withSteps [squared]).dispatcher visit.progress.context
            ⟨visit.step, [], visit.world⟩ f) ∨
        OutputsFail (withSteps [squared]) l (.fault f)) ∧
      ∃ x note, (execute (withSteps [squared]) [] "w" oneItem [] dawn).1.1.ledger.get?
          dawn.fresh.issue.1 = some x ∧
        x.failure = some note ∧ Told dawn.fresh.issue.1 note (.fault f) := by
  have launched : ∃ l, launch? (withSteps [squared]) [] "w" oneItem [] dawn = some l := ⟨_, rfl⟩
  obtain ⟨l, launched⟩ := launched
  have raised := eq_of_faultOf faultOf_squared
  obtain ⟨⟨x, note, kept, -, noted, told⟩, origin⟩ := execute_traceable launched raised
  exact ⟨l, _, launched, raised, (origin _).mp rfl, x, note, kept, noted, told⟩

/-- An execution that started raises what is no error of the engine, though nothing was cancelled. -/
theorem execute_untraceable :
    (launch? (withSteps [squared]) [] "w" oneItem [] dawn).isSome ∧
      ∃ r, (execute (withSteps [squared]) [] "w" oneItem [] dawn).1.2 = .error r ∧
        r ≠ .cancelled ∧ ∀ err, r ≠ .error err :=
  ⟨rfl, _, eq_of_faultOf faultOf_squared, nofun, nofun⟩

end Engine

end Workflow
