import Workflow.Proofs.Dispatch.Failing
import Workflow.Proofs.Value.Marks

/-!
# The policy of a dispatch

To a dispatch an executor is what its invocations give, one after another.  While these are
failures that a policy applies to, and attempts are left, the dispatch waits and invokes
again.  The first value, or else the last failure, decides how the dispatch ends.
-/

namespace Workflow

open Effect (left left_of_ok left_of_error bind_ok)

variable {σ : Type}

/-! ## What an invocation counts as -/

namespace Deadline

/--
What an invocation counts as that raised something.  With a timeout it is the timeout, when
this ran out or what was raised says of itself that time ran out.
-/
def verdict (step : Step) (deadlines : List Float) (r : Raised) (v : World σ) : Raised :=
  match step.timeout with
  | none => r
  | some seconds =>
      if v.expired == some deadlines.length || saysTimeout r then
        .error (Failure.timedOut step seconds)
      else r

variable {step : Step} {deadlines : List Float} {run : List Float -> Run σ Value} {w v : World σ}

theorem within_of_ok {a : Value} (h : run (opened step deadlines w) w = .ok a v) :
    within step deadlines run w = .ok a v := by
  unfold opened at h
  unfold within
  cases limit : step.timeout with
  | none => simpa only [limit] using h
  | some seconds =>
      simp only [limit] at h
      simp only [h]

theorem within_of_error {r : Raised} (h : run (opened step deadlines w) w = .error r v) :
    ∃ u, within step deadlines run w = .error (verdict step deadlines r v) u ∧
      u.delays = v.delays := by
  unfold opened at h
  unfold within verdict
  cases limit : step.timeout with
  | none =>
      simp only [limit] at h
      exact ⟨v, h, rfl⟩
  | some seconds =>
      simp only [limit] at h
      simp only [h]
      cases own : v.expired == some deadlines.length with
      | true => exact ⟨_, rfl, rfl⟩
      | false =>
          cases late : saysTimeout r with
          | true => exact ⟨v, rfl, rfl⟩
          | false => exact ⟨v, rfl, rfl⟩

end Deadline

/-! ## One attempt after another -/

theorem Failure.classify?_of_not_fatal {r : Raised} (h : ¬ r.IsFatal) (step : Step)
    (attempt : Int) : ∃ e, classify? step attempt r = some e := by
  cases kind : classify? step attempt r with
  | none => exact absurd (fatal_of_classify? kind) h
  | some e => exact ⟨e, rfl⟩

/-- Filling in the step does not change what an absorbed failure shows. -/
theorem Failure.shownMessage_assign (step : Step) (attempt : Int) (e : Error) :
    shownMessage (assign step attempt e) = shownMessage e := by
  have message : (assign step attempt e).message = e.message := rfl
  unfold shownMessage
  rw [message]
  cases carried : e.kind.executor? with
  | none => simp only [assign, carried]
  | some f =>
      simp only [assign, carried, ErrorKind.executor?_withExecutor carried, Option.bind_some]

namespace Attempt

variable {s : Settings} {step : Step} {invoke : Run σ Value} {w v u : World σ} {r : Raised}

/-- A wait is logged and noted. -/
theorem pause_of_delay {attempt : Int} {x : Float}
    (h : Backoff.delay s v.chance step.retry attempt = .ok x) (max : Int) (e : Error) :
    pause s step max attempt r e v =
      .ok () { v.logged .warning (retryLine step attempt max x r e) with
        delays := v.delays ++ [x] } := by
  have looked : (get : Run σ (World σ)) v = .ok v v := rfl
  have given : (Run.ofOutcome (.ok x) : Run σ Float) v = .ok x v := rfl
  simp only [pause, bind, EStateM.bind, looked, h, given]
  rfl

/-- The world in which an attempt is followed by another one. -/
def following (s : Settings) (step : Step) (invoke : Run σ Value) (attempt : Int)
    (w : World σ) : World σ :=
  match invoke w with
  | .ok _ v => v
  | .error r v =>
      match Failure.classify? step attempt r with
      | none => v
      | some e => left (pause s step (Backoff.maxAttempts s step) attempt r e) v

/-- After a failure with a delay the executor is invoked in the world behind the wait. -/
theorem following_of_delay {attempt : Int} {e : Error} {x : Float} (failed : invoke w = .error r v)
    (classified : Failure.classify? step attempt r = some e)
    (timed : Backoff.delay s v.chance step.retry attempt = .ok x) :
    following s step invoke attempt w =
      { v.logged .warning (retryLine step attempt (Backoff.maxAttempts s step) x r e) with
        delays := v.delays ++ [x] } := by
  simp only [following, failed, classified]
  exact left_of_ok (pause_of_delay timed _ e)

/-- The world in which the executor is invoked again after so many attempts. -/
def worldAfter (s : Settings) (step : Step) (invoke : Run σ Value) (w : World σ) : Nat -> World σ
  | 0 => w
  | n + 1 => following s step invoke (n + 1) (worldAfter s step invoke w n)

/-- An attempt that failed and may be followed by another one, after a delay. -/
structure Fails (s : Settings) (step : Step) (invoke : Run σ Value) (attempt : Int)
    (w : World σ) (x : Float) : Prop where
  failed : ∃ r v, invoke w = .error r v ∧ ¬ r.IsFatal
  timed : Backoff.delay s (left invoke w).chance step.retry attempt = .ok x

theorem Fails.waits {attempt : Int} {x : Float} (h : Fails s step invoke attempt w x) :
    ∃ r v e u, invoke w = .error r v ∧ Failure.classify? step attempt r = some e ∧
      pause s step (Backoff.maxAttempts s step) attempt r e v = .ok () u ∧
      following s step invoke attempt w = u ∧ u.delays = (left invoke w).delays ++ [x] := by
  obtain ⟨r, v, failed, ordinary⟩ := h.failed
  obtain ⟨e, classified⟩ := Failure.classify?_of_not_fatal ordinary step attempt
  have timed := h.timed
  rw [left_of_error failed] at timed ⊢
  exact ⟨r, v, e, _, failed, classified, pause_of_delay timed _ e,
    following_of_delay failed classified timed, rfl⟩

variable {x : Nat -> Float} {n : Nat}

theorem moves_worldAfter {R : World σ -> World σ -> Prop} (F : World.Frame R)
    (hi : Effect.Moves R invoke) (n : Nat) : R w (worldAfter s step invoke w n) := by
  induction n with
  | zero => exact F.refl w
  | succ n ih =>
      refine F.trans ih ?_
      have invoked := hi (worldAfter s step invoke w n)
      rw [worldAfter, following]
      cases ended : invoke (worldAfter s step invoke w n) with
      | ok a v =>
          rw [left_of_ok ended] at invoked
          exact invoked
      | error r v =>
          rw [left_of_error ended] at invoked
          dsimp only
          split
          · exact invoked
          · exact F.trans invoked (moves_pause F s step _ _ r _ v)

/-- Behind attempts that failed the next one begins, if it is still within the budget. -/
theorem begins_worldAfter
    (failing : ∀ i < n, Fails s step invoke (i + 1) (worldAfter s step invoke w i) (x i))
    (within : n < budget s step) :
    Begins s step invoke w (budget s step - 1 - n) (n + 1) (worldAfter s step invoke w n) := by
  induction n with
  | zero => exact .first
  | succ n ih =>
      have before := ih (fun i bound => failing i (Nat.lt_succ_of_lt bound))
        (Nat.lt_of_succ_lt within)
      obtain ⟨r, v, e, u, failed, classified, waited, same, -⟩ :=
        (failing n (Nat.lt_succ_self n)).waits
      have more : budget s step - 1 - n = budget s step - 1 - (n + 1) + 1 := by omega
      rw [more] at before
      rw [worldAfter, same]
      exact .again before failed classified waited

/-- The invocations are those of the attempts that failed, and of what follows them. -/
theorem invocations_of_failing
    (failing : ∀ i < n, Fails s step invoke (i + 1) (worldAfter s step invoke w i) (x i))
    (within : n < budget s step) :
    invocations s step invoke w = (List.range n).map (worldAfter s step invoke w) ++
      invocationsFrom s step invoke (budget s step - 1 - n) (n + 1)
        (worldAfter s step invoke w n) := by
  induction n with
  | zero => rfl
  | succ n ih =>
      obtain ⟨r, v, e, u, failed, classified, waited, same, -⟩ :=
        (failing n (Nat.lt_succ_self n)).waits
      have more : budget s step - 1 - n = budget s step - 1 - (n + 1) + 1 := by omega
      rw [ih (fun i bound => failing i (Nat.lt_succ_of_lt bound)) (Nat.lt_of_succ_lt within), more,
        List.range_succ, List.map_append, List.append_assoc, invocationsFrom]
      simp only [failed, classified, waited, worldAfter, same]
      rfl

/-- A value ends the attempts. -/
theorem run_of_value {left : Nat} {attempt : Int} {a : Value}
    (begun : Begins s step invoke w left attempt v) (given : invoke v = .ok a u) :
    run s step invoke w = .ok ⟨a, attempt, none⟩ u := by
  rw [run_of_begins begun]
  cases left <;> simp only [startingAt, once, Run.attempt, bind, EStateM.bind, given] <;> rfl

theorem invocations_of_value {a : Value}
    (failing : ∀ i < n, Fails s step invoke (i + 1) (worldAfter s step invoke w i) (x i))
    (within : n < budget s step) (given : invoke (worldAfter s step invoke w n) = .ok a u) :
    invocations s step invoke w = (List.range (n + 1)).map (worldAfter s step invoke w) := by
  rw [invocations_of_failing failing within, List.range_succ, List.map_append, List.map_singleton]
  cases budget s step - 1 - n <;> simp only [invocationsFrom, given]

/-- What the policy makes of the last failure, the attempts come to. -/
theorem run_of_last {attempt : Int} {e : Error} (begun : Begins s step invoke w 0 attempt v)
    (failed : invoke v = .error r u) (classified : Failure.classify? step attempt r = some e) :
    run s step invoke w = settle step (Backoff.maxAttempts s step) attempt e u := by
  rw [run_of_begins begun, startingAt, once_of_classified failed classified]

theorem invocations_of_last
    (failing : ∀ i < n, Fails s step invoke (i + 1) (worldAfter s step invoke w i) (x i))
    (last : budget s step = n + 1) :
    invocations s step invoke w = (List.range (n + 1)).map (worldAfter s step invoke w) := by
  have none : budget s step - 1 - n = 0 := by omega
  rw [invocations_of_failing failing (last ▸ Nat.lt_succ_self n), none, invocationsFrom,
    List.range_succ, List.map_append, List.map_singleton]

/-- The policy to go on absorbs the last failure. -/
theorem settle_of_proceed (h : step.onError = .proceed) (max attempt : Int) (e : Error) :
    ∃ z, settle step max attempt e v = .ok ⟨Failure.output e, attempt, some e⟩ z ∧
      z.delays = v.delays := by
  simp only [settle, h]
  exact ⟨_, rfl, rfl⟩

/-- The attempts there are, of which there is one at least. -/
theorem budget_eq (s : Settings) (step : Step) :
    (budget s step : Int) = max 1 (Backoff.maxAttempts s step) := by
  unfold budget
  omega

end Attempt

/-! ## One dispatch -/

/-- No part of a dispatch changes what chance gives. -/
theorem frame_chance : World.Frame fun w v : World σ => v.chance = w.chance where
  refl _ := rfl
  trans before after := after.trans before
  issued _ _ := rfl
  marked _ _ _ := rfl
  logged _ _ _ := rfl
  waited _ _ := rfl
  timed _ _ _ := rfl

theorem Handler.moves_chance (h : Handler σ) : h.Moves fun w v => v.chance = w.chance := by
  cases h with
  | builtin b => exact fun _ _ _ _ => rfl
  | conditional => exact fun _ _ _ => rfl
  | plugin p => exact fun _ _ _ _ => rfl

/-- No delay is noted by what changes values. -/
theorem Run.delays_changing {α : Type} (m : EStateM Raised Objects α) (w : World σ) :
    (left (changing m) w).delays = w.delays := by
  simp only [left, changing, bind, EStateM.bind, tried]
  cases m w.objects <;> rfl

namespace Deadline

theorem delays_invoke (p : Plugin σ) (step : Step) (config : Value) (c : Context)
    (deadlines : List Float) (w : World σ) :
    (left (invoke p step config c deadlines) w).delays = w.delays := by
  simp only [left, invoke]
  cases (p.invoke step config (c.current w.objects) w.executors).1 with
  | value v => rfl
  | raised r => rfl
  | endless =>
      simp only [cutOff]
      split <;> rfl

theorem delays_within {step : Step} {deadlines : List Float} {run : List Float -> Run σ Value}
    (ran : ∀ ds w, (left (run ds) w).delays = w.delays) (w : World σ) :
    (left (within step deadlines run) w).delays = w.delays := by
  rw [← ran (opened step deadlines w) w]
  cases ended : run (opened step deadlines w) w with
  | ok a v => rw [left_of_ok (within_of_ok ended), left_of_ok ended]
  | error r v =>
      obtain ⟨u, failed, same⟩ := within_of_error ended
      rw [left_of_error failed, left_of_error ended, same]

end Deadline

namespace Dispatcher

variable {d : Dispatcher σ} {c : Context} {t : Turn σ} {handler : Handler σ} {config : Value}
  {u w : World σ}

/-- What the executor of a step gives in a world, or what counts as raised there. -/
def resultIn (d : Dispatcher σ) (c : Context) (t : Turn σ) (handler : Handler σ) (config : Value)
    (w : World σ) : Except Raised Value :=
  match invoke handler t.step config c (choose d c t.step)
      (Deadline.opened t.step t.deadlines w) w with
  | .ok a _ => .ok a
  | .error r v => .error (Deadline.verdict t.step t.deadlines r v)

theorem invocationBy_of_result_ok {a : Value} (h : resultIn d c t handler config w = .ok a) :
    ∃ v, invocationBy d c t handler config w = .ok a v := by
  unfold resultIn at h
  split at h
  · next ended =>
      cases h
      exact ⟨_, Deadline.within_of_ok ended⟩
  · cases h

theorem invocationBy_of_result_error {r : Raised}
    (h : resultIn d c t handler config w = .error r) :
    ∃ v, invocationBy d c t handler config w = .error r v := by
  unfold resultIn at h
  split at h
  · cases h
  · next ended =>
      cases h
      obtain ⟨v, failed, -⟩ := Deadline.within_of_error ended
      exact ⟨v, failed⟩

/-- An executor that runs no branch waits for nothing. -/
theorem delays_invocationBy (simple : handler ≠ .conditional) (w : World σ) :
    (left (invocationBy d c t handler config) w).delays = w.delays := by
  refine Deadline.delays_within (fun ds w => ?_) w
  have looked : (Run.current config : Run σ Value) w = .ok (w.objects.refresh config) w := rfl
  cases handler with
  | conditional => exact absurd rfl simple
  | builtin b =>
      have same := Run.delays_changing (b.run t.step (w.objects.refresh config) c) w
      simpa only [left, invoke, bind, EStateM.bind, looked] using same
  | plugin p =>
      have same := Deadline.delays_invoke p t.step (w.objects.refresh config) c ds w
      simpa only [left, invoke, bind, EStateM.bind, looked] using same

/-- An invocation does not change what chance gives. -/
theorem chance_invocationBy (d : Dispatcher σ) (c : Context) (t : Turn σ) (handler : Handler σ)
    (config : Value) (w : World σ) :
    (left (invocationBy d c t handler config) w).chance = w.chance :=
  Deadline.moves_within frame_chance t.step t.deadlines (fun ds =>
    moves_invoke frame_chance handler.moves_chance t.step config c
      (fun ds _ => moves_dispatchBranch frame_chance (fun _ _ h _ => h.moves_chance) c ds _) ds) w

theorem delays_configOf {step : Step} (h : configOf c step w = .ok config u) :
    u.delays = w.delays := by
  obtain ⟨scope, v, looked, later⟩ := bind_ok h
  cases looked
  obtain ⟨value, v, resolved, owned⟩ := bind_ok later
  cases owned
  unfold Run.resolving at resolved
  split at resolved <;> cases resolved
  rfl

theorem chance_configOf {step : Step} (h : configOf c step w = .ok config u) :
    u.chance = w.chance := by
  have same := moves_configOf frame_chance c step w
  rwa [left_of_ok h] at same

/-- The world in which the executor of a step is invoked after so many invocations. -/
abbrev worldAt (d : Dispatcher σ) (c : Context) (t : Turn σ) (handler : Handler σ)
    (config : Value) (u : World σ) : Nat -> World σ :=
  Attempt.worldAfter d.settings t.step (invocationBy d c t handler config) u

/-- The first results of the executor of a step are failures that a policy applies to. -/
def FailsFirst (d : Dispatcher σ) (c : Context) (t : Turn σ) (handler : Handler σ)
    (config : Value) (u : World σ) (n : Nat) : Prop :=
  ∀ i < n, ∃ r, resultIn d c t handler config (worldAt d c t handler config u i) = .error r ∧
    ¬ r.IsFatal

/-- The delays between the attempts of a dispatch can be computed. -/
def Timed (d : Dispatcher σ) (t : Turn σ) (x : Nat -> Float) : Prop :=
  ∀ n, n + 1 < Attempt.budget d.settings t.step ->
    Backoff.delay d.settings t.world.chance t.step.retry (n + 1) = .ok (x n)

/-- A dispatch invokes its executor so many times, and waits once between two of them. -/
structure Invokes (d : Dispatcher σ) (c : Context) (t : Turn σ) (handler : Handler σ)
    (config : Value) (u : World σ) (x : Nat -> Float) (n : Nat) (z : World σ) : Prop where
  invoked : invocations d c t = (List.range n).map (worldAt d c t handler config u)
  before : u.delays = t.world.delays
  between : ∀ i, i + 1 < n -> (worldAt d c t handler config u (i + 1)).delays =
    (left (invocationBy d c t handler config) (worldAt d c t handler config u i)).delays ++ [x i]
  behind : z.delays =
    (left (invocationBy d c t handler config) (worldAt d c t handler config u (n - 1))).delays

variable {x : Nat -> Float} {n : Nat} {z : World σ}

/-- An executor that runs no branch leaves the waiting to the dispatch. -/
theorem Invokes.delays (h : Invokes d c t handler config u x n z)
    (simple : handler ≠ .conditional) :
    z.delays = t.world.delays ++ (List.range (n - 1)).map x := by
  have reached (k : Nat) (inside : k ≤ n - 1) :
      (worldAt d c t handler config u k).delays = t.world.delays ++ (List.range k).map x := by
    induction k with
    | zero => rw [List.range_zero, List.map_nil, List.append_nil]; exact h.before
    | succ k ih =>
        rw [h.between k (by omega), delays_invocationBy simple, ih (by omega), List.range_succ,
          List.map_append, List.map_singleton, List.append_assoc]
  rw [h.behind, delays_invocationBy simple, reached (n - 1) (Nat.le_refl _)]

/-- No part of the attempts changes what chance gives. -/
theorem chance_worldAt (d : Dispatcher σ) (c : Context) (t : Turn σ) (handler : Handler σ)
    (config : Value) (u : World σ) (n : Nat) :
    (worldAt d c t handler config u n).chance = u.chance :=
  Attempt.moves_worldAfter frame_chance (chance_invocationBy d c t handler config) n

/-- The first attempts fail, each of them followed by a delay. -/
theorem fails_of_failsFirst (ready : Ready d c t handler config u) (timed : Timed d t x)
    (failing : FailsFirst d c t handler config u n)
    (within : n < Attempt.budget d.settings t.step) (i : Nat) (inside : i < n) :
    Attempt.Fails d.settings t.step (invocationBy d c t handler config) (i + 1)
      (worldAt d c t handler config u i) (x i) := by
  obtain ⟨r, given, ordinary⟩ := failing i inside
  obtain ⟨v, failed⟩ := invocationBy_of_result_error given
  refine ⟨⟨r, v, failed, ordinary⟩, ?_⟩
  rw [chance_invocationBy, chance_worldAt, chance_configOf ready.configured]
  exact timed i (by omega)

theorem invokes_of_failsFirst (ready : Ready d c t handler config u) (timed : Timed d t x)
    (failing : FailsFirst d c t handler config u n)
    (within : n < Attempt.budget d.settings t.step)
    (invoked : Attempt.invocations d.settings t.step (invocationBy d c t handler config) u =
      (List.range (n + 1)).map (worldAt d c t handler config u))
    (behind : z.delays =
      (left (invocationBy d c t handler config) (worldAt d c t handler config u n)).delays) :
    Invokes d c t handler config u x (n + 1) z where
  invoked := by
    simp only [invocations, ready.handled, ready.configured]
    exact invoked
  before := delays_configOf ready.configured
  between i inside := by
    obtain ⟨r, v, e, y, -, -, -, same, waited⟩ :=
      (fails_of_failsFirst ready timed failing within i (by omega)).waits
    rw [← waited, ← same]
    rfl
  behind := behind

/-- What the attempts come to, the dispatch comes to. -/
theorem took_of_attempted (ready : Ready d c t handler config u) {a : Attempted} {v : World σ}
    (h : Attempt.run d.settings t.step (invocationBy d c t handler config) u = .ok a v) :
    ∃ o z, took d c t = .ok o z ∧ o.attempts = a.attempts ∧ o.failure = a.failure ∧
      o.output.unmarked = a.output.unmarked ∧ z.delays = v.delays := by
  have clock : (Run.now : Run σ DateTime) t.world = .ok t.world.fresh.now t.world := rfl
  have found : d.registry.get t.step.type (some t.step.id) = .ok handler := by
    rw [Registry.get, ready.handled]
  have taken : (Run.ofResult (.ok handler) : Run σ (Handler σ)) t.world = .ok handler t.world := rfl
  unfold invocationBy at h
  rw [took, dispatchWithin_eq]
  simp only [runStep, bind, EStateM.bind, clock, found, taken, ready.configured, h]
  exact ⟨_, _, rfl, rfl, rfl, Objects.unmarked_markFrom false a.output v.objects.next, rfl⟩

/-- A value within the attempts there are completes the step. -/
theorem took_of_value (ready : Ready d c t handler config u) (timed : Timed d t x)
    (within : n < Attempt.budget d.settings t.step) (failing : FailsFirst d c t handler config u n)
    {a : Value}
    (given : resultIn d c t handler config (worldAt d c t handler config u n) = .ok a) :
    ∃ o z, took d c t = .ok o z ∧ o.status = StepRecord.completed ∧ o.failure = none ∧
      o.output.unmarked = a.unmarked ∧ o.attempts = n + 1 ∧
      Invokes d c t handler config u x (n + 1) z := by
  have fails := fails_of_failsFirst ready timed failing within
  obtain ⟨v, ended⟩ := invocationBy_of_result_ok given
  have begun := Attempt.begins_worldAfter fails within
  obtain ⟨o, z, dispatched, attempts, none, output, waited⟩ :=
    took_of_attempted ready (Attempt.run_of_value begun ended)
  refine ⟨o, z, dispatched, ?_, none, output, attempts, ?_⟩
  · rw [StepOutcome.status, StepOutcome.failed, none]
    rfl
  · refine invokes_of_failsFirst ready timed failing within
      (Attempt.invocations_of_value fails within ended) ?_
    rw [waited, left_of_ok ended]

/-- The last failure ends the step, in the way that its policy says. -/
theorem took_of_failures (ready : Ready d c t handler config u) (timed : Timed d t x)
    (last : Attempt.budget d.settings t.step = n + 1)
    (failing : FailsFirst d c t handler config u (n + 1)) {r : Raised}
    (given : resultIn d c t handler config (worldAt d c t handler config u n) = .error r) :
    ∃ e, Failure.classify? t.step (n + 1) r = some e ∧
      (t.step.onError = .proceed -> ∃ o z, took d c t = .ok o z ∧
        o.status = StepRecord.failed ∧ o.failure = some e ∧
        o.output.unmarked = Failure.output e ∧ o.attempts = n + 1 ∧
        Invokes d c t handler config u x (n + 1) z) ∧
      (t.step.onError ≠ .proceed -> ∃ z, took d c t = .error (.error e) z ∧
        Invokes d c t handler config u x (n + 1) z) := by
  have within : n < Attempt.budget d.settings t.step := last ▸ Nat.lt_succ_self n
  have earlier : FailsFirst d c t handler config u n :=
    fun i inside => failing i (Nat.lt_succ_of_lt inside)
  have fails := fails_of_failsFirst ready timed earlier within
  obtain ⟨v, ended⟩ := invocationBy_of_result_error given
  obtain ⟨r', same, ordinary⟩ := failing n (Nat.lt_succ_self n)
  obtain rfl : r = r' := Except.error.inj (given.symm.trans same)
  obtain ⟨e, classified⟩ := Failure.classify?_of_not_fatal ordinary t.step (n + 1)
  have begun := Attempt.begins_worldAfter fails within
  have none : Attempt.budget d.settings t.step - 1 - n = 0 := by omega
  rw [none] at begun
  have settled := Attempt.run_of_last begun ended classified
  have invokes {z : World σ} (waited : z.delays = v.delays) :
      Invokes d c t handler config u x (n + 1) z :=
    invokes_of_failsFirst ready timed earlier within (Attempt.invocations_of_last fails last)
      (by rw [waited, left_of_error ended])
  refine ⟨e, classified, fun goesOn => ?_, fun stops => ?_⟩
  · obtain ⟨y, absorbed, calm⟩ := Attempt.settle_of_proceed (v := v) goesOn
      (Backoff.maxAttempts d.settings t.step) (n + 1) e
    obtain ⟨o, z, dispatched, attempts, failure, output, waited⟩ :=
      took_of_attempted ready (settled.trans absorbed)
    refine ⟨o, z, dispatched, ?_, failure, output, attempts, invokes (waited.trans calm)⟩
    rw [StepOutcome.status, StepOutcome.failed, failure]
    rfl
  · obtain ⟨z, raised, waited⟩ := Attempt.settle_of_last stops
      (Backoff.maxAttempts d.settings t.step) (n + 1) e v
    exact ⟨z, took_of_run ready (settled.trans raised), invokes waited⟩

/--
The policy of a dispatch.  An executor that gives a value within the attempts there are is
invoked until then, and its value is the output of the step.  One that fails in all of them
is invoked in each; the last failure, or what wraps it, is raised, unless the step goes on.
-/
theorem took_of_results (ready : Ready d c t handler config u) (timed : Timed d t x) :
    (Attempt.budget d.settings t.step : Int) = max 1 (Backoff.maxAttempts d.settings t.step) ∧
    (∀ n a, n < Attempt.budget d.settings t.step -> FailsFirst d c t handler config u n ->
      resultIn d c t handler config (worldAt d c t handler config u n) = .ok a ->
      ∃ o z, took d c t = .ok o z ∧ o.status = StepRecord.completed ∧ o.failure = none ∧
        o.output.unmarked = a.unmarked ∧ o.attempts = n + 1 ∧
        Invokes d c t handler config u x (n + 1) z) ∧
    ∀ n r, Attempt.budget d.settings t.step = n + 1 -> FailsFirst d c t handler config u (n + 1) ->
      resultIn d c t handler config (worldAt d c t handler config u n) = .error r ->
      ∃ e text, ((∃ e', r = .error e' ∧ e = Failure.assign t.step (n + 1) e' ∧
            text = Failure.shownMessage e') ∨
          ∃ f, r = .fault f ∧ e = Failure.wrap t.step (n + 1) f ∧ text = f.message) ∧
        (t.step.onError = .proceed -> ∃ o z, took d c t = .ok o z ∧
          o.status = StepRecord.failed ∧ o.failure = some e ∧
          o.output.unmarked = .record [("error", .str text), ("status", .str StepRecord.failed)] ∧
          o.attempts = n + 1 ∧ Invokes d c t handler config u x (n + 1) z) ∧
        (t.step.onError ≠ .proceed -> ∃ z, took d c t = .error (.error e) z ∧
          Invokes d c t handler config u x (n + 1) z) := by
  refine ⟨Attempt.budget_eq _ _, fun n a within failing given =>
    took_of_value ready timed within failing given, fun n r last failing given => ?_⟩
  obtain ⟨e, classified, goesOn, stops⟩ := took_of_failures ready timed last failing given
  refine ⟨e, Failure.shownMessage e, ?_, goesOn, stops⟩
  rcases Failure.classify?_eq_some classified with ⟨e', rfl, rfl⟩ | ⟨f, rfl, rfl⟩
  · exact .inl ⟨e', rfl, rfl, Failure.shownMessage_assign t.step (n + 1) e'⟩
  · exact .inr ⟨f, rfl, rfl, rfl⟩

/-- An executor that fails at first, and then counts its invocations. -/
def flaky : Plugin Nat :=
  .ofFunction "flaky" fun _ _ _ n =>
    (if n = 0 then .raised (.fault (.other "RuntimeError" "boom")) else .value (.int n), n + 1)

/-- An executor whose own wait for a peer ran out. -/
def slow : Plugin Nat :=
  .ofFunction "slow" fun _ _ _ n =>
    (.raised (.fault (.other "TimeoutError" "slow peer")), n + 1)

/-- A dispatcher with two executors. -/
def wavering : Dispatcher Nat :=
  ⟨.standard, ⟨[("flaky", .plugin flaky), ("slow", .plugin slow)], true⟩⟩

/-- The context of a run without inputs. -/
def blank : Context :=
  ⟨.dict [], [], [], [], []⟩

/-- The first step of a run. -/
def firstTurn (step : Step) : Turn Nat :=
  ⟨step, [], .start ⟨⟨⟨2024, 1, 2⟩, 3, 4, 5, 0, none⟩, 0⟩ 0.5 0⟩

/-- A step that is tried three times, with delays that grow without end. -/
def stubborn : Step :=
  { Step.plain "a" "flaky" with onError := .retry, retry := some ⟨3, none, none, 1e400⟩ }

theorem timed_stubborn : ∃ x, Timed wavering (firstTurn stubborn) x := by
  have delay (n : Nat) (inside : n < 2) : ∃ x, Backoff.delay wavering.settings
      (firstTurn stubborn).world.chance stubborn.retry (n + 1) = .ok x := by
    have number : ∃ y, Value.floatOfInt (n + 1 - 1) = .ok y := by
      match n, inside with
      | 0, _ => exact ⟨_, rfl⟩
      | 1, _ => exact ⟨_, rfl⟩
    obtain ⟨y, number⟩ := number
    exact Backoff.delay_of_endless (by decide +kernel) (by decide +kernel) number _
  obtain ⟨x, first⟩ := delay 0 (by decide)
  obtain ⟨y, second⟩ := delay 1 (by decide)
  refine ⟨fun n => if n = 0 then x else y, fun n inside => ?_⟩
  have budget : Attempt.budget wavering.settings stubborn = 3 := rfl
  match n, inside with
  | 0, _ => exact first
  | 1, _ => exact second
  | n + 2, inside =>
      have inside : n + 3 < 3 := inside
      omega

/-- The second invocation gives a value, and the step is completed with it. -/
theorem took_of_results_stubborn :
    ∃ x o z, Timed wavering (firstTurn stubborn) x ∧
      took wavering blank (firstTurn stubborn) = .ok o z ∧ o.status = StepRecord.completed ∧
      o.output.unmarked = .int 1 ∧ o.attempts = 2 ∧ z.delays = [x 0] := by
  obtain ⟨x, timed⟩ := timed_stubborn
  have ready : Ready wavering blank (firstTurn stubborn) (.plugin flaky) .null
      (firstTurn stubborn).world := ⟨rfl, rfl⟩
  have failing : FailsFirst wavering blank (firstTurn stubborn) (.plugin flaky) .null
      (firstTurn stubborn).world 1 := by
    intro i inside
    obtain rfl : i = 0 := by omega
    exact ⟨.fault (.other "RuntimeError" "boom"), rfl, id⟩
  have given : resultIn wavering blank (firstTurn stubborn) (.plugin flaky) .null
      (worldAt wavering blank (firstTurn stubborn) (.plugin flaky) .null
        (firstTurn stubborn).world 1) = .ok (.int 1) := by
    have failed : invocationBy wavering blank (firstTurn stubborn) (.plugin flaky) .null
        (firstTurn stubborn).world = .error (.fault (.other "RuntimeError" "boom"))
          { (firstTurn stubborn).world with executors := 1 } := rfl
    have second := Attempt.following_of_delay failed rfl (timed 0 (by decide))
    exact (congrArg (resultIn wavering blank (firstTurn stubborn) (.plugin flaky) .null)
      second).trans rfl
  obtain ⟨-, completes, -⟩ := took_of_results ready timed
  obtain ⟨o, z, dispatched, status, -, output, attempts, invokes⟩ :=
    completes 1 (.int 1) (by decide) failing given
  exact ⟨x, o, z, timed, dispatched, status, output, attempts, invokes.delays nofun⟩

/-- A step with a time limit, whose executor has one of its own. -/
def hasty : Step :=
  { Step.plain "a" "slow" with timeout := some 5.0 }

/-- The step is reported as timed out, though it was the executor that ran out of time. -/
theorem took_own_timeout :
    ∃ v e z, invoke (.plugin slow) hasty .null blank (choose wavering blank hasty)
        (Deadline.opened hasty [] (firstTurn hasty).world) (firstTurn hasty).world =
          .error (.fault (.other "TimeoutError" "slow peer")) v ∧ v.expired = none ∧
      took wavering blank (firstTurn hasty) = .error (.error e) z ∧
      e.kind.name = "StepTimeoutError" ∧
      (Failure.wrap hasty 1 (.other "TimeoutError" "slow peer")).kind.name = "ExecutorError" :=
  ⟨_, _, _, rfl, rfl, rfl, rfl, rfl⟩

end Dispatcher

end Workflow
