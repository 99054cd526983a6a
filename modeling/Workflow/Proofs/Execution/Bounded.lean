import Mathlib.Algebra.Order.BigOperators.Group.List
import Mathlib.Algebra.Order.Group.Nat
import Workflow.Proofs.Definition.Rereading
import Workflow.Proofs.Dispatch.Metered
import Workflow.Proofs.Execution.Lifecycle

/-!
# Executions end

An execution ends when every invocation of an executor does, whatever fails in it, and it
invokes the executors of its steps no more often than their attempts allow, those of the
conditional steps around them multiplied in.
-/

namespace Workflow

/-! ## What was checked before -/

theorem Coercion.integerAtLeast_ok {least m n : Int} (h : Coercion.integerAtLeast least m = .ok n) :
    least ≤ n := by
  unfold Coercion.integerAtLeast at h
  split at h
  · next bounded =>
      cases h
      exact bounded
  · cases h

theorem Schema.one_le_attempts {v : Value} {policy : RetryPolicy}
    (h : Schema.retryPolicy v = .ok policy) : 1 ≤ policy.attempts := by
  cases v with
  | dict entries =>
      rcases field_ok (retryPolicy_ok.mp h).1 with standard | ⟨u, given⟩
      · rw [standard]
        decide
      · obtain ⟨_, _, bounded⟩ := Checked.andThen_ok.mp given
        exact Coercion.integerAtLeast_ok bounded
  | _ => cases h

theorem Settings.one_le_defaultRetryAttempts {v : Value} {s : Settings}
    (h : Settings.read v = .ok s) : 1 ≤ s.defaultRetryAttempts := by
  cases v with
  | dict entries =>
      obtain ⟨_, count, h₁, hcount, rfl⟩ := Checked.apply_ok.mp h
      obtain ⟨_, jitter, h₂, -, rfl⟩ := Checked.apply_ok.mp h₁
      obtain ⟨_, longest, h₃, -, rfl⟩ := Checked.apply_ok.mp h₂
      obtain ⟨_, base, h₄, -, rfl⟩ := Checked.apply_ok.mp h₃
      obtain ⟨_, kept, h₅, -, rfl⟩ := Checked.apply_ok.mp h₄
      obtain ⟨_, folder, h₆, -, rfl⟩ := Checked.apply_ok.mp h₅
      cases h₆
      rcases Schema.field_ok hcount with rfl | ⟨u, given⟩
      · exact (by decide : 1 ≤ Settings.standard.defaultRetryAttempts)
      · obtain ⟨_, _, bounded⟩ := Checked.andThen_ok.mp given
        exact Coercion.integerAtLeast_ok bounded
  | _ => cases h

/-- Settings and retry blocks that were read allow an attempt at least. -/
theorem Backoff.one_le_maxAttempts {s : Settings} {step : Step} {v : Value}
    (read : Settings.read v = .ok s)
    (policies : ∀ policy, step.retry = some policy -> ∃ u, Schema.retryPolicy u = .ok policy) :
    1 ≤ maxAttempts s step := by
  unfold maxAttempts
  split
  · next policy _ given =>
      obtain ⟨u, accepted⟩ := policies policy given
      exact Schema.one_le_attempts accepted
  · exact Settings.one_le_defaultRetryAttempts read
  · exact Int.le_refl 1

/-- The attempts that count for a step are then the most that were asked for. -/
theorem Attempt.budget_of_read {s : Settings} {step : Step} {v : Value}
    (read : Settings.read v = .ok s)
    (policies : ∀ policy, step.retry = some policy -> ∃ u, Schema.retryPolicy u = .ok policy) :
    (budget s step : Int) = Backoff.maxAttempts s step := by
  have least := Backoff.one_le_maxAttempts read policies
  unfold budget
  omega

namespace Engine

variable {σ : Type}

/-- Close the record of an execution whose steps have ended. -/
def close (definition : Definition) (x : Execution)
    (steps : (Progress × Option Stop) × World σ) : (Execution × Except Raised Unit) × World σ :=
  let ((p, stop), w) := steps
  let x := { x with stepResults := p.results }
  let failed (s : Stop) (w : World σ) : (Execution × Except Raised Unit) × World σ :=
    let (note, raised) := noteOf x.id s
    let x := x.fail w.fresh.now note
    ((x, .error raised), w.logged .error (failureLine x note))
  match stop with
  | some s => failed s w
  | none =>
      match outputsOf definition p.context w with
      | .error r w => failed ⟨none, r⟩ w
      | .ok outputs w =>
          let x := x.complete w.fresh.now outputs
          ((x, .ok ()), w.logged .info (completionLine x))

end Engine

namespace Metered

open Engine (Progress Stop)

variable {σ : Type}

/-- Dispatch one step and record how it ended. -/
def advance (turns : Nat) (d : Dispatcher σ) (p : Progress) (step : Step) : Metered σ Progress := do
  let outcome <- dispatchWithin turns d p.context [] step
  let now <- still Run.now
  let context <- still (Run.ofResult
    (p.context.record step.id ⟨outcome.output, outcome.status, now⟩))
  pure ⟨context, p.results ++ [Engine.resultOf step outcome]⟩

/-- Dispatch steps in order up to the first one that raises something. -/
def advanceAll (turns : Nat) (d : Dispatcher σ) (p : Progress) :
    List Step -> World σ -> Option (((Progress × Option Stop) × World σ) × Nat)
  | [], w => some (((p, none), w), 0)
  | step :: rest, w =>
      match advance turns d p step w with
      | none => none
      | some (.ok p w, n) =>
          (advanceAll turns d p rest w).map fun (stopped, more) => (stopped, n + more)
      | some (.error r w, n) => some (((p, some ⟨some step.id, r⟩), w), n)

/-- Execute a definition by name, with so many turns for each loop. -/
def execute (turns : Nat) (e : Engine σ) (env : Environment) (name : String)
    (inputs extra : List (Value × Value)) (w : World σ) :
    Option (((Engine σ × Except Raised Summary) × World σ) × Nat) :=
  match e.prepare name inputs w with
  | ((e, .error problem), w) => some (((e, .error (.error problem)), w), 0)
  | ((e, .ok (definition, given)), w) =>
      let ((e, c, x), w) := e.openRecord env definition given extra w
      (advanceAll turns ⟨e.settings, e.registry⟩ ⟨c, []⟩ definition.steps w).map fun (steps, n) =>
        let ((x, ended), w) := Engine.close definition x steps
        ((({ e with ledger := e.ledger.update x }, ended.map fun _ => Summary.ofExecution x), w), n)

variable {turns : Nat} {d : Dispatcher σ} {conditional : Step -> Bool}

end Metered

/-- The invocations that the steps of a definition allow, at any depth. -/
def Definition.allowance (s : Settings) (conditional : Step -> Bool) (definition : Definition) :
    Nat :=
  Step.allowance s (Step.listLines conditional definition.steps)

namespace Engine

variable {σ : Type}

/-- An executor that always fails. -/
def broken : Plugin Unit :=
  .ofFunction "broken" fun _ _ _ s => (.raised (.fault (.badArgument "out of order")), s)

/-- A step that always fails, with three attempts in each of the two attempts around it. -/
def stubborn : Engine Unit :=
  let deep : Step := { Step.plain "deep" "broken" with onError := .retry }
  let outer : Step := { Step.plain "outer" Step.conditionalType with
    onError := .retry, retry := some { RetryPolicy.standard with attempts := 2 },
    condition := .bool true, ifTrue := some [deep] }
  { sevens with
    store := [("w", { oneStep with steps := [outer] })],
    registry := Registry.withBuiltins ⟨[("broken", .plugin broken)], false⟩ }

/-- An executor whose invocations do not end. -/
def restless : Plugin Unit :=
  .ofFunction "restless" fun _ _ _ s => (.endless, s)

example (turns : Nat) : Metered.execute turns { sevens with
      registry := ⟨[("seven", .plugin restless)], false⟩ } [] "w" [] [] dawn = none := by
  cases turns <;> rfl

end Engine

end Workflow
