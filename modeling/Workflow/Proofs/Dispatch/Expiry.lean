import Workflow.Proofs.Execution.Frame

/-!
# Deadlines that run out

A deadline that runs out cancels what runs inside it, and nothing else happens until its
own step answers with a timeout.  So as long as no cancellation is on its way, no deadline
has run out, and a cancellation that leaves some open deadlines is due to one of them.
-/

namespace Workflow

open Effect

variable {σ α β : Type}

/--
A computation among so many open deadlines.  If none of them has run out before, none has
afterwards, unless the computation was cancelled because one has.
-/
def Run.Timely (n : Nat) (m : Run σ α) : Prop :=
  ∀ w, w.expired = none -> match m w with
    | .ok _ v => v.expired = none
    | .error r v => v.expired = none ∨ (r = .cancelled ∧ ∃ place < n, v.expired = some place)

namespace Run

variable {n : Nat}

theorem Timely.ok {m : Run σ α} (h : Timely n m) {w v : World σ} {a : α} (calm : w.expired = none)
    (ended : m w = .ok a v) : v.expired = none := by
  have after := h w calm
  rw [ended] at after
  exact after

theorem Timely.error {m : Run σ α} (h : Timely n m) {w v : World σ} {r : Raised}
    (calm : w.expired = none) (ended : m w = .error r v) :
    v.expired = none ∨ (r = .cancelled ∧ ∃ place < n, v.expired = some place) := by
  have after := h w calm
  rw [ended] at after
  exact after

/-- What was not cancelled leaves no deadline that has run out. -/
theorem Timely.failed {m : Run σ α} (h : Timely n m) {w v : World σ} {r : Raised}
    (calm : w.expired = none) (ended : m w = .error r v) (other : r ≠ .cancelled) :
    v.expired = none := by
  rcases h.error calm ended with after | ⟨same, _⟩
  · exact after
  · exact absurd same other

/-- Without open deadlines none runs out. -/
theorem Timely.left {m : Run σ α} (h : Timely 0 m) {w : World σ} (calm : w.expired = none) :
    (left m w).expired = none := by
  cases ended : m w with
  | ok a v => rw [left_of_ok ended]; exact h.ok calm ended
  | error r v =>
      rw [left_of_error ended]
      rcases h.error calm ended with after | ⟨_, _, outside, _⟩
      · exact after
      · exact absurd outside (Nat.not_lt_zero _)

theorem timely_of_left {m : Run σ α} (h : ∀ w, (left m w).expired = w.expired) : Timely n m := by
  intro w calm
  have same := h w
  rw [calm] at same
  cases ended : m w with
  | ok a v => rwa [left_of_ok ended] at same
  | error r v => rw [left_of_error ended] at same; exact .inl same

theorem timely_pure (a : α) : Timely n (pure a : Run σ α) :=
  timely_of_left fun _ => rfl

theorem timely_throw (r : Raised) : Timely n (throw r : Run σ α) :=
  timely_of_left fun _ => rfl

theorem timely_get : Timely n (get : Run σ (World σ)) :=
  timely_of_left fun _ => rfl

theorem timely_bind {m : Run σ α} {k : α -> Run σ β} (hm : Timely n m)
    (hk : ∀ a, Timely n (k a)) : Timely n (m >>= k) := by
  intro w calm
  cases ended : m w with
  | ok a v =>
      have later := hk a v (hm.ok calm ended)
      simpa only [bind, EStateM.bind, ended] using later
  | error r v =>
      have after := hm.error calm ended
      simpa only [bind, EStateM.bind, ended] using after

theorem timely_map {m : Run σ α} (hm : Timely n m) (f : α -> β) :
    Timely n (do pure (f (<- m)) : Run σ β) :=
  timely_bind hm fun a => timely_pure (f a)

theorem timely_ofExcept (r : Except Raised α) : Timely n (ofExcept r : Run σ α) := by
  cases r with
  | ok a => exact timely_pure a
  | error e => exact timely_throw e

theorem timely_resolving (m : Reference.Resolving α) : Timely n (resolving m : Run σ α) := by
  refine timely_of_left fun w => ?_
  cases h : m w.fresh <;> simp [resolving, left, h]

theorem timely_tried {ε : Type} (m : EStateM ε Objects α) :
    Timely n (tried m : Run σ (Except ε α)) :=
  timely_of_left fun w => by rw [left_tried]

theorem timely_current (v : Value) : Timely n (current v : Run σ Value) :=
  timely_map timely_get _

theorem timely_own (v : Value) : Timely n (own v : Run σ Value) :=
  timely_of_left fun _ => rfl

theorem timely_ownParts (v : Value) : Timely n (ownParts v : Run σ Value) :=
  timely_of_left fun _ => rfl

theorem timely_log (level : LogLevel) (message : String) :
    Timely n (log level message : Run σ Unit) :=
  timely_of_left fun _ => rfl

theorem timely_wait (delay : Float) : Timely n (wait delay : Run σ Unit) :=
  timely_of_left fun _ => rfl

theorem timely_now : Timely n (now : Run σ DateTime) :=
  timely_map timely_get _

end Run

open Run

variable {n : Nat}

theorem Condition.timely_decide (c : Context) (condition : Value) :
    Timely n (decide c condition : Run σ Bool) := by
  have bound (text : String) (scope : List (Value × Value)) (b : Reference.Bound) :
      Timely n (decideBound text scope b : Run σ Bool) := by
    unfold decideBound
    split
    · refine timely_bind (timely_tried _) fun r => ?_
      cases r with
      | ok answer => exact timely_pure answer
      | error e =>
          dsimp only
          split
          · exact timely_bind (timely_log _ _) fun _ => timely_pure _
          · exact timely_throw _
    · exact timely_bind (timely_log _ _) fun _ => timely_pure _
  unfold decide
  split
  · exact timely_pure _
  · exact timely_throw _
  · split
    · exact timely_throw _
    · exact timely_bind timely_get fun _ =>
        timely_bind (timely_resolving _) fun b => bound _ _ b
  · exact timely_pure _

/-! ## Attempts -/

namespace Failure

/-- A policy applies only to what is no cancellation. -/
theorem ne_cancelled_of_classify? {step : Step} {attempt : Int} {r : Raised} {e : Error}
    (h : classify? step attempt r = some e) : r ≠ .cancelled := by
  rintro rfl
  cases h

end Failure

namespace Attempt

theorem timely_settle (step : Step) (max attempt : Int) (e : Error) :
    Timely n (settle step max attempt e : Run σ Attempted) := by
  have raised : Timely n (Run.fail e : Run σ Attempted) := timely_throw _
  unfold settle
  split
  · exact timely_map (timely_log _ _) _
  · dsimp only
    split
    · exact timely_bind (timely_log _ _) fun _ => raised
    · exact raised

theorem timely_pause (s : Settings) (step : Step) (max attempt : Int) (r : Raised) (e : Error) :
    Timely n (pause s step max attempt r e : Run σ Unit) :=
  timely_bind timely_get fun _ => timely_bind (timely_ofExcept _) fun delay =>
    timely_bind (timely_log _ _) fun _ => timely_wait delay

/-- An invocation that is cancelled ends the attempts, with the deadline still to be answered. -/
theorem timely_once (step : Step) (attempt : Int) {invoke : Run σ Value}
    {onFailure : Raised -> Error -> Run σ Attempted} (hi : Timely n invoke)
    (hf : ∀ r e, Timely n (onFailure r e)) : Timely n (once step attempt invoke onFailure) := by
  intro w calm
  cases ended : invoke w with
  | ok v t =>
      simp only [once, Run.attempt, bind, EStateM.bind, ended]
      exact hi.ok calm ended
  | error r t =>
      have after := hi.error calm ended
      simp only [once, Run.attempt, bind, EStateM.bind, ended]
      cases kind : Failure.classify? step attempt r with
      | none => exact after
      | some e => exact hf r e t (hi.failed calm ended (Failure.ne_cancelled_of_classify? kind))

theorem timely_startingAt (s : Settings) (step : Step) (max : Int) {invoke : Run σ Value}
    (hi : Timely n invoke) (left : Nat) (attempt : Int) :
    Timely n (startingAt s step max invoke left attempt) := by
  induction left generalizing attempt with
  | zero => exact timely_once step attempt hi fun _ e => timely_settle step max attempt e
  | succ left ih =>
      exact timely_once step attempt hi fun r e =>
        timely_bind (timely_pause s step max attempt r e) fun _ => ih (attempt + 1)

end Attempt

/-! ## Deadlines -/

namespace Deadline

theorem earliest?_lt {deadlines : List Float} {place : Nat} {deadline : Float}
    (h : earliest? deadlines = some (place, deadline)) : place < deadlines.length := by
  induction deadlines generalizing place deadline with
  | nil => cases h
  | cons d rest ih =>
      unfold earliest? at h
      split at h
      · cases h
        exact Nat.zero_lt_succ _
      · next found =>
          split at h
          · cases h
            exact Nat.succ_lt_succ (ih found)
          · cases h
            exact Nat.zero_lt_succ _

theorem timely_invoke (p : Plugin σ) (step : Step) (config : Value) (c : Context)
    (deadlines : List Float) : Timely deadlines.length (invoke p step config c deadlines) := by
  intro w calm
  rcases hi : p.invoke step config (c.current w.objects) w.executors with ⟨ending, executors⟩
  cases ending with
  | value v => simpa only [invoke, hi] using calm
  | raised r => simpa only [invoke, hi] using Or.inl calm
  | endless =>
      simp only [invoke, hi, cutOff]
      split
      · exact .inl calm
      · next place _ found => exact .inr ⟨trivial, place, earliest?_lt found, rfl⟩

/-- The deadline of a step is answered by the step itself, whatever ran out inside. -/
theorem timely_within (step : Step) (deadlines : List Float) {run : List Float -> Run σ Value}
    (hr : ∀ ds, Timely ds.length (run ds)) :
    Timely deadlines.length (within step deadlines run) := by
  unfold within
  split
  · exact hr deadlines
  · next seconds _ =>
      intro w calm
      have inside := hr (deadlines ++ [w.elapsed + seconds])
      cases ended : run (deadlines ++ [w.elapsed + seconds]) w with
      | ok v t => simpa only [ended] using inside.ok calm ended
      | error r t =>
          have after := inside.error calm ended
          by_cases own : t.expired = some deadlines.length
          · simp [ended, own]
          · have others : t.expired = none ∨
                (r = .cancelled ∧ ∃ place < deadlines.length, t.expired = some place) := by
              rcases after with none | ⟨cancelled, place, bound, due⟩
              · exact .inl none
              · refine .inr ⟨cancelled, place, ?_, due⟩
                have apart : place ≠ deadlines.length := by
                  rintro rfl
                  exact own due
                simp only [List.length_append, List.length_singleton] at bound
                omega
            by_cases late : saysTimeout r = true
            · have calm : t.expired = none := by
                rcases others with none | ⟨rfl, _⟩
                · exact none
                · cases late
              simp [ended, late, calm]
            · simpa [ended, own, late] using others

end Deadline

/-! ## Dispatching -/

namespace Dispatcher

theorem timely_invoke (h : Handler σ) (step : Step) (config : Value) (c : Context)
    {choose : List Float -> Bool -> Run σ (Option (List Value))}
    (hc : ∀ ds b, Timely ds.length (choose ds b)) (deadlines : List Float) :
    Timely deadlines.length (invoke h step config c choose deadlines) := by
  refine timely_bind (timely_current config) fun config => ?_
  cases h with
  | builtin b => exact timely_bind (timely_tried _) fun r => timely_ofExcept r
  | plugin p => exact Deadline.timely_invoke p step config c deadlines
  | conditional =>
      exact timely_bind (Condition.timely_decide c step.condition) fun chosen =>
        timely_map (hc deadlines chosen) _

theorem timely_configOf (c : Context) (step : Step) : Timely n (configOf c step : Run σ Value) :=
  timely_bind (timely_current _) fun _ => timely_bind (timely_resolving _) fun v =>
    timely_ownParts v

theorem timely_runStep (d : Dispatcher σ) (c : Context) (deadlines : List Float) (step : Step)
    {choose : List Float -> Bool -> Run σ (Option (List Value))}
    (hc : ∀ ds b, Timely ds.length (choose ds b)) :
    Timely deadlines.length (runStep d c deadlines step choose) := by
  refine timely_bind timely_now fun _ => timely_bind (timely_ofExcept _) fun handler => ?_
  refine timely_bind (timely_configOf c step) fun config => ?_
  refine timely_bind (Attempt.timely_startingAt _ step _ ?_ _ _) fun attempted =>
    timely_bind (timely_own _) fun _ => timely_map timely_now _
  exact Deadline.timely_within step deadlines fun ds => timely_invoke handler step config c hc ds

mutual

theorem timely_dispatchWithin (d : Dispatcher σ) (c : Context) (deadlines : List Float)
    (step : Step) : Timely deadlines.length (dispatchWithin d c deadlines step) := by
  match step with
  | ⟨id, type, description, config, onError, retry, timeout, condition, ifTrue, ifFalse, extra⟩ =>
      refine timely_runStep d c deadlines _ fun ds chosen => ?_
      split
      · exact timely_dispatchBranch d c ds ifTrue
      · exact timely_dispatchBranch d c ds ifFalse

theorem timely_dispatchBranch (d : Dispatcher σ) (c : Context) (deadlines : List Float)
    (branch : Option (List Step)) :
    Timely deadlines.length (dispatchBranch d c deadlines branch) := by
  match branch with
  | none => exact timely_pure none
  | some steps => exact timely_map (timely_dispatchAll d c deadlines steps) _

theorem timely_dispatchAll (d : Dispatcher σ) (c : Context) (deadlines : List Float)
    (steps : List Step) : Timely deadlines.length (dispatchAll d c deadlines steps) := by
  match steps with
  | [] => exact timely_pure []
  | s :: rest =>
      exact timely_bind (timely_dispatchWithin d c deadlines s) fun _ =>
        timely_map (timely_dispatchAll d c deadlines rest) _

end

end Dispatcher

/-! ## Executions -/

namespace Engine

theorem timely_advance (d : Dispatcher σ) (p : Progress) (step : Step) :
    Timely 0 (advance d p step) :=
  timely_bind (Dispatcher.timely_dispatchWithin d p.context [] step) fun _ =>
    timely_bind timely_now fun _ => timely_map (timely_ofExcept _) _

end Engine

end Workflow
