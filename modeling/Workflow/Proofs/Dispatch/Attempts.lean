import Workflow.Proofs.Dispatch.Nesting

/-!
# The invocations of a dispatch

One dispatch of a step invokes its executor once for each attempt.  What leaves the
attempts is a fault of the delays, something that no policy applies to, or the error of
the last attempt; and this error carries the number of the invocations there were.
-/

namespace Workflow

variable {σ α β : Type}

/-! ## What computations raise -/

namespace Effect

variable {ε τ : Type} {s t : τ} {e : ε}

/-- Something raised comes from a computation, or from what follows its result. -/
theorem bind_error {m : EStateM ε τ α} {k : α -> EStateM ε τ β} (h : (m >>= k) s = .error e t) :
    m s = .error e t ∨ ∃ a u, m s = .ok a u ∧ k a u = .error e t := by
  simp only [bind, EStateM.bind] at h
  cases hm : m s with
  | ok a u =>
      rw [hm] at h
      exact .inr ⟨a, u, rfl, h⟩
  | error e' u =>
      rw [hm] at h
      cases h
      exact .inl rfl

end Effect

open Effect (bind_error)

theorem Run.ofExcept_error {x : Except Raised α} {w v : World σ} {r : Raised}
    (h : (Run.ofExcept x : Run σ α) w = .error r v) : x = .error r ∧ v = w := by
  cases x with
  | ok a => cases h
  | error r' =>
      cases h
      exact ⟨rfl, rfl⟩

theorem Run.resolving_error {m : Reference.Resolving α} {w v : World σ} {r : Raised}
    (h : (Run.resolving m : Run σ α) w = .error r v) : ∃ f, r = .fault f := by
  unfold Run.resolving at h
  split at h
  · cases h
  · next f fresh _ =>
      cases h
      exact ⟨f, rfl⟩

theorem Run.tried_ne_error {ε : Type} {m : EStateM ε Objects α} {w v : World σ} {r : Raised}
    (h : (Run.tried m : Run σ (Except ε α)) w = .error r v) : False := by
  unfold Run.tried at h
  cases ended : m w.objects <;> simp only [ended] at h <;> cases h

theorem Run.tried_failed {ε : Type} {m : EStateM ε Objects α} {w v : World σ} {e : ε}
    (h : (Run.tried m : Run σ (Except ε α)) w = .ok (.error e) v) :
    ∃ o, m w.objects = .error e o := by
  unfold Run.tried at h
  cases ended : m w.objects with
  | ok a o => simp only [ended] at h; cases h
  | error e' o =>
      simp only [ended] at h
      cases h
      exact ⟨o, rfl⟩

theorem Run.changing_error {m : EStateM Raised Objects α} {w v : World σ} {r : Raised}
    (h : (Run.changing m : Run σ α) w = .error r v) : ∃ o, m w.objects = .error r o := by
  rcases bind_error h with tried | ⟨a, u, tried, later⟩
  · exact (tried_ne_error tried).elim
  · obtain ⟨rfl, -⟩ := ofExcept_error later
    exact tried_failed tried

/-! ## Delays -/

/-- An infinite double is not too large when it is raised. -/
theorem Backoff.power_of_endless {base number : Float} {n : Int}
    (endless : Number.Binary.ofFloat base = .infinite false ∧ base.isFinite = false)
    (unzero : (base == 0.0) = false) (given : Value.floatOfInt n = .ok number) :
    ∃ x, power base n = .ok x := by
  obtain ⟨infinite, endless⟩ := endless
  simp only [power, overflows, Value.floatPow, given, infinite, endless, unzero, bind, Except.bind,
    Bool.false_and, Bool.and_false, Bool.false_eq_true, false_and, and_false, if_false]
  split <;> exact ⟨_, rfl⟩

/-- A delay can be computed when the delays grow without end. -/
theorem Backoff.delay_of_endless {s : Settings} {retry : Option RetryPolicy} {attempt : Int}
    {n : Float}
    (endless : Number.Binary.ofFloat ((retry.map (·.backoff)).getD standardBackoff) =
        .infinite false ∧
      ((retry.map (·.backoff)).getD standardBackoff).isFinite = false)
    (unzero : ((retry.map (·.backoff)).getD standardBackoff == 0.0) = false)
    (number : Value.floatOfInt (attempt - 1) = .ok n) (chance : Float) :
    ∃ x, delay s chance retry attempt = .ok x := by
  obtain ⟨x, raised⟩ := power_of_endless endless unzero number
  simp only [delay, plainDelay, raised, bind, Except.bind]
  exact ⟨_, rfl⟩

/-! ## Classified failures -/

/-- A kind that carries a failing executor carries the one that it is given. -/
theorem ErrorKind.executor?_withExecutor {k : ErrorKind} {f : ExecutorFailure}
    (h : k.executor? = some f) (g : ExecutorFailure) : (k.withExecutor g).executor? = some g := by
  cases k <;> first | rfl | cases h

namespace Failure

/-- The step is filled in where it is missing, and the number of the attempt in any case. -/
theorem executor?_assign {step : Step} {attempt : Int} {e : Error} {f : ExecutorFailure}
    (h : (assign step attempt e).kind.executor? = some f) :
    ∃ g, e.kind.executor? = some g ∧
      f = { g with stepType := known g.stepType step.type, attempts := .int attempt } := by
  cases hk : e.kind.executor? with
  | none =>
      simp only [assign, hk] at h
      cases h
  | some g =>
      simp only [assign, hk, ErrorKind.executor?_withExecutor hk, Option.some.injEq] at h
      exact ⟨g, rfl, h.symm⟩

/-- A classified failure carries the number of the attempt. -/
theorem attempts_of_classify? {step : Step} {attempt : Int} {r : Raised} {e : Error}
    {f : ExecutorFailure} (h : classify? step attempt r = some e)
    (carried : e.kind.executor? = some f) : f.attempts = .int attempt := by
  cases r with
  | cancelled => cases h
  | fault g =>
      cases h
      cases carried
      rfl
  | error e' =>
      simp only [classify?] at h
      split at h
      · cases h
      · cases h
        obtain ⟨g, -, rfl⟩ := executor?_assign carried
        rfl

/-- What no policy applies to is fatal. -/
theorem fatal_of_classify? {step : Step} {attempt : Int} {r : Raised}
    (h : classify? step attempt r = none) : r.IsFatal := by
  cases r with
  | cancelled => trivial
  | fault f => cases h
  | error e =>
      simp only [classify?] at h
      split at h
      · assumption
      · cases h

end Failure

/-- The error of a step without executor carries no failing executor. -/
theorem Error.executor?_of_isUnknownStepType {e : Error} (h : e.isUnknownStepType = true) :
    e.kind.executor? = none := by
  unfold isUnknownStepType at h
  cases hk : e.kind <;> simp only [hk] at h <;> first | rfl | cases h

namespace Attempt

variable {s : Settings} {step : Step} {invoke : Run σ Value} {w v u : World σ} {r : Raised}

/-! ## What the attempts raise -/

theorem settle_error {max attempt : Int} {e : Error}
    (h : (settle step max attempt e : Run σ Attempted) w = .error r v) :
    r = .error e ∧ step.onError ≠ .proceed := by
  have failed {u : World σ} (h : (Run.fail e : Run σ Attempted) u = .error r v) :
      r = .error e := by
    cases h
    rfl
  cases policy : step.onError with
  | proceed =>
      simp only [settle, policy] at h
      rcases bind_error h with logged | ⟨_, _, _, later⟩
      · cases logged
      · cases later
  | stop | retry =>
      refine ⟨?_, nofun⟩
      simp only [settle, policy] at h
      split at h
      · rcases bind_error h with logged | ⟨_, _, _, later⟩
        · cases logged
        · exact failed later
      · exact failed h

/-- A failure of the last attempt is raised unless the policy absorbs it. -/
theorem settle_of_last (last : step.onError ≠ .proceed) (max attempt : Int) (e : Error)
    (w : World σ) :
    ∃ v, settle step max attempt e w = .error (.error e) v ∧ v.delays = w.delays := by
  cases policy : step.onError with
  | proceed => exact absurd policy last
  | stop | retry =>
      simp only [settle, policy]
      split <;> exact ⟨_, rfl, rfl⟩

/-- A wait raises only what computing its delay does. -/
theorem pause_error {max attempt : Int} {r' : Raised} {e : Error}
    (h : (pause s step max attempt r' e : Run σ Unit) w = .error r v) :
    ∃ f, r = .fault f ∧ Backoff.delay s w.chance step.retry attempt = .error f := by
  have looked : (get : Run σ (World σ)) w = .ok w w := rfl
  simp only [pause, bind, EStateM.bind, looked] at h
  cases hd : Backoff.delay s w.chance step.retry attempt with
  | ok delay =>
      have timed : (Run.ofOutcome (.ok delay) : Run σ Float) w = .ok delay w := rfl
      simp only [hd, timed] at h
      cases h
  | error f =>
      have late : (Run.ofOutcome (.error f) : Run σ Float) w = .error (.fault f) w := rfl
      simp only [hd, late] at h
      cases h
      exact ⟨f, rfl, rfl⟩

/-- What an attempt raises was raised by the invocation or by what follows its failure. -/
theorem once_error {attempt : Int} {onFailure : Raised -> Error -> Run σ Attempted}
    (h : once step attempt invoke onFailure w = .error r v) :
    (invoke w = .error r v ∧ Failure.classify? step attempt r = none) ∨
      ∃ r' e u, invoke w = .error r' u ∧ Failure.classify? step attempt r' = some e ∧
        onFailure r' e u = .error r v := by
  simp only [once, Run.attempt, bind, EStateM.bind] at h
  cases ended : invoke w with
  | ok a u =>
      simp only [ended] at h
      cases h
  | error r' u =>
      simp only [ended] at h
      cases kind : Failure.classify? step attempt r' with
      | none =>
          simp only [kind] at h
          cases h
          exact .inl ⟨rfl, kind⟩
      | some e =>
          simp only [kind] at h
          exact .inr ⟨r', e, u, rfl, kind, h⟩

/-- How the attempts at a step come to raise something. -/
inductive Raises (s : Settings) (step : Step) (invoke : Run σ Value) (w : World σ) :
    Raised -> Prop where
  /-- An attempt met something that no policy applies to. -/
  | passed {left : Nat} {attempt : Int} {v u : World σ} {r : Raised}
      (begun : Begins s step invoke w left attempt v) (failed : invoke v = .error r u)
      (fatal : r.IsFatal) : Raises s step invoke w r
  /-- The delay before another attempt could not be computed. -/
  | stuck {left : Nat} {attempt : Int} {v u : World σ} {r : Raised} {e : Error} {f : Fault}
      (begun : Begins s step invoke w (left + 1) attempt v) (failed : invoke v = .error r u)
      (classified : Failure.classify? step attempt r = some e)
      (waiting : Backoff.delay s u.chance step.retry attempt = .error f) :
      Raises s step invoke w (.fault f)
  /-- The last attempt failed, and the policy does not absorb it. -/
  | spent {attempt : Int} {v u : World σ} {r : Raised} {e : Error}
      (begun : Begins s step invoke w 0 attempt v) (failed : invoke v = .error r u)
      (classified : Failure.classify? step attempt r = some e) : Raises s step invoke w (.error e)

theorem raises_of_begins {left : Nat} {attempt : Int}
    (begun : Begins s step invoke w left attempt v)
    (h : startingAt s step (Backoff.maxAttempts s step) invoke left attempt v = .error r u) :
    Raises s step invoke w r := by
  induction left generalizing attempt v with
  | zero =>
      rcases once_error h with ⟨failed, kind⟩ | ⟨r', e, t, failed, classified, settled⟩
      · exact .passed begun failed (Failure.fatal_of_classify? kind)
      · obtain ⟨rfl, -⟩ := settle_error settled
        exact .spent begun failed classified
  | succ left ih =>
      rcases once_error h with ⟨failed, kind⟩ | ⟨r', e, t, failed, classified, later⟩
      · exact .passed begun failed (Failure.fatal_of_classify? kind)
      · rcases bind_error later with late | ⟨_, z, waited, again⟩
        · obtain ⟨f, rfl, waiting⟩ := pause_error late
          exact .stuck begun failed classified waiting
        · exact ih (.again begun failed classified waited) again

theorem run_error (h : run s step invoke w = .error r v) : Raises s step invoke w r :=
  raises_of_begins .first h

/-- How often the executor of a step is invoked when each invocation fails. -/
def budget (s : Settings) (step : Step) : Nat :=
  (Backoff.maxAttempts s step - 1).toNat + 1

/-- A delay that cannot be computed ends the attempts. -/
theorem run_of_stuck {left : Nat} {attempt : Int} {e : Error} {f : Fault}
    (begun : Begins s step invoke w (left + 1) attempt v) (failed : invoke v = .error r u)
    (classified : Failure.classify? step attempt r = some e)
    (waiting : Backoff.delay s u.chance step.retry attempt = .error f) :
    run s step invoke w = .error (.fault f) u := by
  rw [run_of_begins begun, startingAt, once_of_classified failed classified]
  have looked : (get : Run σ (World σ)) u = .ok u u := rfl
  have late : (Run.ofOutcome (.error f) : Run σ Float) u = .error (.fault f) u := rfl
  simp only [pause, bind, EStateM.bind, looked, waiting, late]

/-! ## How often the executor is invoked -/

/-- The worlds in which the executor is invoked from an attempt on, with so many left after it. -/
def invocationsFrom (s : Settings) (step : Step) (invoke : Run σ Value) :
    Nat -> Int -> World σ -> List (World σ)
  | 0, _, w => [w]
  | left + 1, attempt, w =>
      w :: match invoke w with
        | .ok _ _ => []
        | .error r v =>
            match Failure.classify? step attempt r with
            | none => []
            | some e =>
                match pause s step (Backoff.maxAttempts s step) attempt r e v with
                | .ok _ u => invocationsFrom s step invoke left (attempt + 1) u
                | .error _ _ => []

/-- The worlds in which the executor is invoked, in order. -/
def invocations (s : Settings) (step : Step) (invoke : Run σ Value) (w : World σ) :
    List (World σ) :=
  invocationsFrom s step invoke (Backoff.maxAttempts s step - 1).toNat 1 w

theorem invocationsFrom_of_error {left : Nat} {attempt : Int} {e : Error} {f : ExecutorFailure}
    (h : startingAt s step (Backoff.maxAttempts s step) invoke left attempt w = .error (.error e) v)
    (carried : e.kind.executor? = some f) :
    (invocationsFrom s step invoke left attempt w).length = left + 1 ∧
      f.attempts = .int (attempt + left) := by
  have unpassed {n : Int} (kind : Failure.classify? step n (.error e) = none) : False := by
    have fatal : e.isUnknownStepType = true := Failure.fatal_of_classify? kind
    rw [Error.executor?_of_isUnknownStepType fatal] at carried
    cases carried
  induction left generalizing attempt w with
  | zero =>
      rcases once_error h with ⟨-, kind⟩ | ⟨r', e', t, failed, classified, settled⟩
      · exact (unpassed kind).elim
      · obtain ⟨same, -⟩ := settle_error settled
        cases same
        refine ⟨rfl, ?_⟩
        rw [Failure.attempts_of_classify? classified carried, Int.natCast_zero, Int.add_zero]
  | succ left ih =>
      rcases once_error h with ⟨-, kind⟩ | ⟨r', e', t, failed, classified, later⟩
      · exact (unpassed kind).elim
      · rcases bind_error later with late | ⟨_, z, waited, again⟩
        · obtain ⟨g, same, -⟩ := pause_error late
          cases same
        · obtain ⟨count, number⟩ := ih again
          simp only [invocationsFrom, failed, classified, waited, List.length_cons, count, number]
          refine ⟨trivial, ?_⟩
          congr 1
          omega

/-- Where each invocation fails and each delay can be computed, all attempts are made. -/
theorem startingAt_of_failing {f : Fault} (failing : ∀ w, ∃ v, invoke w = .error (.fault f) v)
    (last : step.onError ≠ .proceed) (max : Int) (left : Nat) (attempt : Int)
    (timed : ∀ n < left, ∀ chance, ∃ x,
      Backoff.delay s chance step.retry (attempt + n) = .ok x) (w : World σ) :
    ∃ v, startingAt s step max invoke left attempt w =
      .error (.error (Failure.wrap step (attempt + left) f)) v := by
  obtain ⟨u, failed⟩ := failing w
  have classified : Failure.classify? step attempt (.fault f) =
      some (Failure.wrap step attempt f) := rfl
  induction left generalizing attempt w u with
  | zero =>
      rw [startingAt, once_of_classified failed classified, Int.natCast_zero, Int.add_zero]
      obtain ⟨v, settled, -⟩ := settle_of_last last max attempt (Failure.wrap step attempt f) u
      exact ⟨v, settled⟩
  | succ left ih =>
      obtain ⟨delay, known⟩ := timed 0 (Nat.zero_lt_succ _) u.chance
      rw [Int.natCast_zero, Int.add_zero] at known
      obtain ⟨v, waited⟩ : ∃ v, pause s step max attempt (.fault f)
          (Failure.wrap step attempt f) u = .ok () v := by
        have looked : (get : Run σ (World σ)) u = .ok u u := rfl
        have given : (Run.ofOutcome (.ok delay) : Run σ Float) u = .ok delay u := rfl
        simp only [pause, bind, EStateM.bind, looked, known, given]
        exact ⟨_, rfl⟩
      obtain ⟨t, again⟩ := failing v
      have later (n : Nat) (bound : n < left) (chance : Float) :
          ∃ x, Backoff.delay s chance step.retry (attempt + 1 + n) = .ok x := by
        have next := timed (n + 1) (Nat.succ_lt_succ bound) chance
        rwa [Int.natCast_succ, Int.add_comm (n : Int) 1, ← Int.add_assoc] at next
      obtain ⟨z, ended⟩ := ih (attempt + 1) later v t again rfl
      refine ⟨z, ?_⟩
      rw [startingAt, once_of_classified failed classified]
      simp only [bind, EStateM.bind, waited]
      rw [ended, Int.natCast_succ, Int.add_comm (left : Int) 1, ← Int.add_assoc]

/-- The error that is raised carries the number of the invocations, which were all there can be. -/
theorem invocations_of_error {e : Error} {f : ExecutorFailure}
    (h : run s step invoke w = .error (.error e) v) (carried : e.kind.executor? = some f) :
    (invocations s step invoke w).length = budget s step ∧
      f.attempts = .int (budget s step) := by
  obtain ⟨count, number⟩ := invocationsFrom_of_error h carried
  refine ⟨count, ?_⟩
  rw [number, budget]
  congr 1
  omega

end Attempt

end Workflow
