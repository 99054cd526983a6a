import Mathlib.Algebra.BigOperators.Ring.List
import Mathlib.Algebra.Ring.Nat
import Workflow.Proofs.Definition.Named
import Workflow.Proofs.Dispatch.Attempts

/-!
# Counting the invocations of a dispatch

A dispatch is run once more with a counter of the invocations of executors, and with loops
that turn until they are left, so that a run need not end: the attempts at a step go on
while their number is below the most there may be, and an invocation without end is over
only when a deadline cuts it off.  When every invocation ends, each loop is left, what comes
out is what the dispatch comes to, and the invocations are no more than the attempts along
the way to each step allow.  A wait between two attempts is over once it is noted.
-/

namespace Workflow

/--
A computation with the number of the invocations of executors in it, the executor that
chooses between branches not counted; `none` when it does not end.
-/
def Metered (σ α : Type) : Type :=
  World σ -> Option (EStateM.Result Raised (World σ) α × Nat)

namespace Metered

variable {σ α β : Type}

/-- A run that invokes no executor. -/
def still (m : Run σ α) : Metered σ α := fun w =>
  some (m w, 0)

/-- A run that is one invocation of an executor. -/
def invoked (m : Run σ α) : Metered σ α := fun w =>
  some (m w, 1)

/-- One computation after another; what is raised ends both. -/
def andThen (m : Metered σ α) (k : α -> Metered σ β) : Metered σ β := fun w =>
  match m w with
  | none => none
  | some (.error r v, n) => some (.error r v, n)
  | some (.ok a v, n) => (k a v).map fun (ended, more) => (ended, n + more)

instance : Monad (Metered σ) where
  pure a := still (pure a)
  bind := andThen

/-- The result of a computation, or what it raised. -/
def attempt (m : Metered σ α) : Metered σ (Except Raised α) := fun w =>
  (m w).map fun (ended, n) => (Run.attempt (fun _ => ended) w, n)

/-- Run a step, inside its own deadline when it has a timeout. -/
def within (step : Step) (deadlines : List Float) (run : List Float -> Metered σ Value) :
    Metered σ Value := fun w =>
  (run (Deadline.opened step deadlines w) w).map fun (ended, n) =>
    (Deadline.within step deadlines (fun _ _ => ended) w, n)

/-- Invoke an executor from outside; without a deadline it has to end by itself. -/
def invokePlugin (p : Plugin σ) (step : Step) (config : Value) (c : Context)
    (deadlines : List Float) : Metered σ Value := fun w =>
  match (p.invoke step config (c.current w.objects) w.executors).1, deadlines with
  | .endless, [] => none
  | _, _ => some (Deadline.invoke p step config c deadlines w, 1)

/-- Invoke the executor of a step; `choose` runs the branch for a truth value. -/
def invoke (h : Handler σ) (step : Step) (config : Value) (c : Context)
    (choose : List Float -> Bool -> Metered σ (Option (List Value))) (deadlines : List Float) :
    Metered σ Value := do
  let config <- still (Run.current config)
  match h with
  | .builtin b => invoked (Run.changing (b.run step config c))
  | .plugin p => invokePlugin p step config c deadlines
  | .conditional => do
      let chosen <- still (Condition.decide c step.condition)
      let outputs <- choose deadlines chosen
      pure (Dispatcher.branchOutput chosen outputs)

/-- Invoke once; a failure that a policy applies to goes on, anything else is raised. -/
def once (step : Step) (number : Int) (invoke : Metered σ Value)
    (onFailure : Raised -> Error -> Metered σ Attempted) : Metered σ Attempted := do
  match <- attempt invoke with
  | .ok v => pure ⟨v, number, none⟩
  | .error r =>
      match Failure.classify? step number r with
      | none => still (throw r)
      | some e => onFailure r e

/--
Invoke after so many attempts, and again while the attempts are below the most there may be
and a failure comes that a policy applies to.
-/
def attempts (s : Settings) (step : Step) (invoke : Metered σ Value) :
    Nat -> Int -> Metered σ Attempted
  | 0, _ => fun _ => none
  | turns + 1, made =>
      let number := made + 1
      let max := Backoff.maxAttempts s step
      once step number invoke fun r e =>
        if number < max then do
          still (Attempt.pause s step max number r e)
          attempts s step invoke turns number
        else still (Attempt.settle step max number e)

/-- Run a step among open deadlines; `choose` runs the branch for a truth value. -/
def runStep (turns : Nat) (d : Dispatcher σ) (c : Context) (deadlines : List Float) (step : Step)
    (choose : List Float -> Bool -> Metered σ (Option (List Value))) :
    Metered σ StepOutcome := do
  let startedAt <- still Run.now
  let handler <- still (Run.ofResult (d.registry.get step.type (some step.id)))
  let config <- still (Dispatcher.configOf c step)
  let attempted <- attempts d.settings step
    (within step deadlines (invoke handler step config c choose)) turns 0
  let output <- still (Run.own attempted.output)
  let finishedAt <- still Run.now
  pure ⟨output, attempted.attempts, attempted.failure, startedAt, finishedAt⟩

mutual

/-- Dispatch a step among open deadlines, with so many turns for each loop. -/
def dispatchWithin (turns : Nat) (d : Dispatcher σ) (c : Context) (deadlines : List Float) :
    Step -> Metered σ StepOutcome
  | ⟨id, type, description, config, onError, retry, timeout, condition, ifTrue, ifFalse, extra⟩ =>
      runStep turns d c deadlines
        ⟨id, type, description, config, onError, retry, timeout, condition, ifTrue, ifFalse, extra⟩
        fun deadlines chosen =>
          if chosen then dispatchBranch turns d c deadlines ifTrue
          else dispatchBranch turns d c deadlines ifFalse
termination_by structural s => s

/-- Dispatch the steps of a branch, if there is one. -/
def dispatchBranch (turns : Nat) (d : Dispatcher σ) (c : Context) (deadlines : List Float) :
    Option (List Step) -> Metered σ (Option (List Value))
  | none => pure none
  | some steps => do
      let outputs <- dispatchAll turns d c deadlines steps
      pure (some outputs)
termination_by structural b => b

/-- Dispatch steps one after another. -/
def dispatchAll (turns : Nat) (d : Dispatcher σ) (c : Context) (deadlines : List Float) :
    List Step -> Metered σ (List Value)
  | [] => pure []
  | s :: rest => do
      let outcome <- dispatchWithin turns d c deadlines s
      let outputs <- dispatchAll turns d c deadlines rest
      pure (outcome.output :: outputs)
termination_by structural l => l

end

theorem dispatchWithin_eq (turns : Nat) (d : Dispatcher σ) (c : Context) (deadlines : List Float)
    (step : Step) : dispatchWithin turns d c deadlines step =
      runStep turns d c deadlines step fun deadlines chosen =>
        dispatchBranch turns d c deadlines (step.branch chosen) := by
  have branches : (fun (ds : List Float) (chosen : Bool) =>
      if chosen then dispatchBranch turns d c ds step.ifTrue
      else dispatchBranch turns d c ds step.ifFalse) =
      fun ds chosen => dispatchBranch turns d c ds (step.branch chosen) := by
    funext ds chosen
    cases chosen <;> rfl
  rw [← branches]
  cases step
  rfl

/-! ## Computations that end -/

/-- From every world a computation ends as a run does, with at most so many invocations. -/
def Ends (m : Metered σ α) (run : Run σ α) (most : Nat) : Prop :=
  ∀ w, ∃ n ≤ most, m w = some (run w, n)

variable {m : Metered σ α} {run : Run σ α} {most more : Nat}

theorem Ends.mono (h : m.Ends run most) (le : most ≤ more) : m.Ends run more := fun w =>
  let ⟨n, bound, ended⟩ := h w
  ⟨n, bound.trans le, ended⟩

theorem ends_still (run : Run σ α) : (still run).Ends run 0 := fun _ =>
  ⟨0, Nat.le_refl 0, rfl⟩

theorem ends_invoked (run : Run σ α) : (invoked run).Ends run 1 := fun _ =>
  ⟨1, Nat.le_refl 1, rfl⟩

theorem Ends.bind (h : m.Ends run most) {k : α -> Metered σ β} {next : α -> Run σ β}
    (later : ∀ a w v, run w = .ok a v -> (k a).Ends (next a) more) :
    (m >>= k).Ends (run >>= next) (most + more) := by
  intro w
  obtain ⟨n, bound, ended⟩ := h w
  cases taken : run w with
  | error r v =>
      refine ⟨n, Nat.le_add_right_of_le bound, ?_⟩
      simp only [Bind.bind, andThen, EStateM.bind, ended, taken]
  | ok a v =>
      obtain ⟨l, limit, after⟩ := later a w v taken v
      refine ⟨n + l, Nat.add_le_add bound limit, ?_⟩
      simp only [Bind.bind, andThen, EStateM.bind, ended, taken, after, Option.map_some]

/-- A computation and what follows it, which invokes nothing. -/
theorem Ends.bind_still (h : m.Ends run most) {k : α -> Metered σ β} {next : α -> Run σ β}
    (later : ∀ a w v, run w = .ok a v -> (k a).Ends (next a) 0) :
    (m >>= k).Ends (run >>= next) most :=
  h.bind later

/-- A run that invokes nothing, and what follows it. -/
theorem ends_still_bind (run : Run σ α) {k : α -> Metered σ β} {next : α -> Run σ β}
    (later : ∀ a w v, run w = .ok a v -> (k a).Ends (next a) more) :
    (still run >>= k).Ends (run >>= next) more :=
  ((ends_still run).bind later).mono (Nat.zero_add more).le

theorem Ends.attempt (h : m.Ends run most) : (attempt m).Ends (Run.attempt run) most := by
  intro w
  obtain ⟨n, bound, ended⟩ := h w
  refine ⟨n, bound, ?_⟩
  simp only [Metered.attempt, ended, Option.map_some, Run.attempt]

/-- What runs inside a step ends, among any deadlines, one of them open if it has a timeout. -/
theorem ends_within (step : Step) (deadlines : List Float)
    {body : List Float -> Metered σ Value} {run : List Float -> Run σ Value}
    (h : ∀ ds, (ds = [] -> step.timeout = none) -> (body ds).Ends (run ds) most) :
    (within step deadlines body).Ends (Deadline.within step deadlines run) most := by
  intro w
  have timely : Deadline.opened step deadlines w = [] -> step.timeout = none := by
    intro empty
    unfold Deadline.opened at empty
    split at empty
    · assumption
    · exact absurd empty (List.append_ne_nil_of_right_ne_nil _ (List.cons_ne_nil _ _))
  obtain ⟨n, bound, ended⟩ := h _ timely w
  refine ⟨n, bound, ?_⟩
  simp only [within, ended, Option.map_some, Option.some.injEq, Prod.mk.injEq, and_true]
  unfold Deadline.within Deadline.opened
  cases step.timeout <;> rfl

theorem Ends.once {m : Metered σ Value} {run : Run σ Value} (h : m.Ends run most) {step : Step}
    {number : Int} {after : Raised -> Error -> Metered σ Attempted}
    {onFailure : Raised -> Error -> Run σ Attempted}
    (later : ∀ r e, (after r e).Ends (onFailure r e) more) :
    (once step number m after).Ends (Attempt.once step number run onFailure) (most + more) := by
  refine h.attempt.bind fun x _ _ _ => ?_
  cases x with
  | ok v => exact (ends_still _).mono (Nat.zero_le more)
  | error r =>
      simp only
      cases Failure.classify? step number r with
      | none => exact (ends_still _).mono (Nat.zero_le more)
      | some e => exact later r e

/-- The loop is left after the last attempt, each attempt having invoked at most so often. -/
theorem Ends.attempts {s : Settings} {step : Step} {m : Metered σ Value} {run : Run σ Value}
    (h : m.Ends run most) {left turns : Nat} {made : Int}
    (remain : left = (Backoff.maxAttempts s step - (made + 1)).toNat) (enough : left < turns) :
    (attempts s step m turns made).Ends
      (Attempt.startingAt s step (Backoff.maxAttempts s step) run left (made + 1))
      ((left + 1) * most) := by
  induction left generalizing turns made with
  | zero =>
      obtain ⟨turns, rfl⟩ := Nat.exists_eq_succ_of_ne_zero (Nat.ne_zero_of_lt enough)
      have last : ¬ made + 1 < Backoff.maxAttempts s step := by omega
      rw [Nat.zero_add, Nat.one_mul, ← Nat.add_zero most]
      refine h.once fun r e => ?_
      rw [if_neg last]
      exact ends_still _
  | succ left ih =>
      obtain ⟨turns, rfl⟩ := Nat.exists_eq_succ_of_ne_zero (Nat.ne_zero_of_lt enough)
      have below : made + 1 < Backoff.maxAttempts s step := by omega
      rw [Nat.succ_mul, Nat.add_comm _ most]
      refine h.once fun r e => ?_
      rw [if_pos below]
      exact ends_still_bind _ fun _ _ _ _ => ih (by omega) (by omega)

end Metered

/-! ## Executors whose invocations end -/

/-- Each invocation of an executor from outside ends, by itself or by the timeout of its step. -/
def Registry.Ends {σ : Type} (r : Registry σ) : Prop :=
  ∀ type p, r.handlers.get? type = some (.plugin p) -> ∀ step config c s, step.timeout = none ->
    (p.invoke step config c s).1 ≠ .endless

/-- Of the steps that have an executor, those are told that choose between branches. -/
def Registry.Tells {σ : Type} (r : Registry σ) (conditional : Step -> Bool) : Prop :=
  ∀ step h, r.handlers.get? step.type = some h -> (conditional step = true ↔ h = .conditional)

namespace Metered

variable {σ : Type} {most : Nat}

theorem ends_invokePlugin {p : Plugin σ} {step : Step} {config : Value} {c : Context}
    {deadlines : List Float}
    (h : ∀ s c, deadlines = [] -> (p.invoke step config c s).1 ≠ .endless) :
    (invokePlugin p step config c deadlines).Ends
      (Deadline.invoke p step config c deadlines) 1 := by
  intro w
  refine ⟨1, Nat.le_refl 1, ?_⟩
  unfold invokePlugin
  split
  · next never => exact absurd never (h w.executors (c.current w.objects) rfl)
  · rfl

/-- One invocation is one, and that of the executor that chooses is what its branch comes to. -/
theorem ends_invoke {h : Handler σ} {step : Step} {config : Value} {c : Context}
    {body : List Float -> Bool -> Metered σ (Option (List Value))}
    {choose : List Float -> Bool -> Run σ (Option (List Value))} {deadlines : List Float}
    (single : h ≠ .conditional -> 1 ≤ most)
    (ending : ∀ p, h = .plugin p -> ∀ config c s, deadlines = [] ->
      (p.invoke step config c s).1 ≠ .endless)
    (chosen : h = .conditional -> ∀ b, (body deadlines b).Ends (choose deadlines b) most) :
    (invoke h step config c body deadlines).Ends
      (Dispatcher.invoke h step config c choose deadlines) most := by
  refine ends_still_bind _ fun config _ _ _ => ?_
  cases h with
  | builtin b => exact (ends_invoked _).mono (single nofun)
  | plugin p =>
      exact (ends_invokePlugin fun s c => ending p rfl config c s).mono (single nofun)
  | conditional =>
      refine ends_still_bind _ fun b _ _ _ => ?_
      exact (chosen rfl b).bind_still fun _ _ _ _ => ends_still _

end Metered

/-! ## The invocations that steps allow -/

namespace Step

mutual

/-- The steps at any depth that are not conditional, each behind the conditional ones around it. -/
def lines (conditional : Step -> Bool) : Step -> List (List Step)
  | ⟨id, type, description, config, onError, retry, timeout, condition, ifTrue, ifFalse, extra⟩ =>
      let step : Step :=
        ⟨id, type, description, config, onError, retry, timeout, condition, ifTrue, ifFalse, extra⟩
      let below := branchLines conditional ifTrue ++ branchLines conditional ifFalse
      if conditional step then below.map (step :: ·) else [step] :: below

/-- The lines of the steps of a branch. -/
def branchLines (conditional : Step -> Bool) : Option (List Step) -> List (List Step)
  | none => []
  | some steps => listLines conditional steps

/-- The lines of some steps. -/
def listLines (conditional : Step -> Bool) : List Step -> List (List Step)
  | [] => []
  | step :: rest => lines conditional step ++ listLines conditional rest

end

theorem lines_eq (conditional : Step -> Bool) (step : Step) :
    lines conditional step =
      let below := branchLines conditional step.ifTrue ++ branchLines conditional step.ifFalse
      if conditional step then below.map (step :: ·) else [step] :: below := by
  cases step
  rfl

/-- For each line the product of the attempts of its steps, all of them added up. -/
def allowance (s : Settings) (lines : List (List Step)) : Nat :=
  (lines.map fun line => (line.map (Attempt.budget s)).prod).sum

theorem allowance_append (s : Settings) (front back : List (List Step)) :
    allowance s (front ++ back) = allowance s front + allowance s back := by
  simp only [allowance, List.map_append, List.sum_append]

variable {conditional : Step -> Bool} {step : Step} (s : Settings)

/-- What a conditional step allows: what its branches allow, in each of its attempts. -/
theorem allowance_of_conditional (h : conditional step = true) :
    allowance s (lines conditional step) =
      Attempt.budget s step * (allowance s (branchLines conditional step.ifTrue) +
        allowance s (branchLines conditional step.ifFalse)) := by
  simp only [lines_eq, h, if_true, ← allowance_append]
  simp only [allowance, List.map_map, Function.comp_def, List.map_cons, List.prod_cons]
  exact List.sum_map_mul_left _ _ _

theorem budget_le_allowance (h : conditional step = false) :
    Attempt.budget s step ≤ allowance s (lines conditional step) := by
  simp only [lines_eq, h, Bool.false_eq_true, if_false, allowance, List.map_cons, List.map_nil,
    List.prod_singleton, List.sum_cons]
  exact Nat.le_add_right _ _

end Step

namespace Metered

variable {σ : Type} {turns : Nat} {d : Dispatcher σ} {c : Context} {conditional : Step -> Bool}

/-- An invocation of the executor of a step ends; all attempts stay within what the step allows. -/
theorem ends_invocation (ends : d.registry.Ends) (told : d.registry.Tells conditional)
    {step : Step} {h : Handler σ} (handled : d.registry.handlers.get? step.type = some h)
    {body : List Float -> Bool -> Metered σ (Option (List Value))}
    {choose : List Float -> Bool -> Run σ (Option (List Value))}
    (chosen : ∀ ds b, (body ds b).Ends (choose ds b)
      (Step.allowance d.settings (Step.branchLines conditional (step.branch b))))
    (config : Value) (deadlines : List Float) :
    ∃ most, Attempt.budget d.settings step * most ≤
        Step.allowance d.settings (Step.lines conditional step) ∧
      (within step deadlines (invoke h step config c body)).Ends
        (Deadline.within step deadlines (Dispatcher.invoke h step config c choose)) most := by
  by_cases choosing : h = .conditional
  · refine ⟨_, (Step.allowance_of_conditional _ ((told step h handled).mpr choosing)).ge, ?_⟩
    refine ends_within step deadlines fun ds _ => ?_
    refine ends_invoke (absurd choosing) (fun p plugin => ?_) fun _ b => (chosen ds b).mono ?_
    · rw [choosing] at plugin
      cases plugin
    · cases b with
      | true => exact Nat.le_add_right _ _
      | false => exact Nat.le_add_left _ _
  · have other : conditional step = false :=
      Bool.eq_false_iff.mpr fun yes => choosing ((told step h handled).mp yes)
    refine ⟨1, (Nat.mul_one _).le.trans (Step.budget_le_allowance _ other), ?_⟩
    refine ends_within step deadlines fun ds timely => ?_
    refine ends_invoke (fun _ => Nat.le_refl 1) (fun p plugin config c s empty => ?_)
      fun same => absurd same choosing
    exact ends step.type p (plugin ▸ handled) step config c s (timely empty)

/-- A step that is run ends, within what it allows, when its branches end so. -/
theorem ends_runStep (ends : d.registry.Ends) (told : d.registry.Tells conditional)
    {deadlines : List Float} {step : Step} (enough : Attempt.budget d.settings step ≤ turns)
    {body : List Float -> Bool -> Metered σ (Option (List Value))}
    {choose : List Float -> Bool -> Run σ (Option (List Value))}
    (chosen : ∀ ds b, (body ds b).Ends (choose ds b)
      (Step.allowance d.settings (Step.branchLines conditional (step.branch b)))) :
    (runStep turns d c deadlines step body).Ends (Dispatcher.runStep d c deadlines step choose)
      (Step.allowance d.settings (Step.lines conditional step)) := by
  refine ends_still_bind _ fun _ _ _ _ => ends_still_bind _ fun h w v found => ?_
  have handled : d.registry.handlers.get? step.type = some h := by
    unfold Registry.get at found
    split at found
    · next known =>
        cases found
        exact known
    · cases found
  refine ends_still_bind _ fun config _ _ _ => ?_
  obtain ⟨most, allowed, invoked⟩ := ends_invocation ends told handled chosen config deadlines
  have tried : (attempts d.settings step _ turns 0).Ends (Attempt.run d.settings step _) _ :=
    invoked.attempts rfl enough
  refine (tried.bind_still fun _ _ _ _ => ?_).mono allowed
  exact ends_still_bind _ fun _ _ _ _ => ends_still_bind _ fun _ _ _ _ => ends_still _

mutual

/-- The dispatch of a step ends, within what the step allows. -/
theorem ends_dispatchWithin (ends : d.registry.Ends) (told : d.registry.Tells conditional)
    (deadlines : List Float) (step : Step)
    (enough : ∀ t ∈ step.tree, Attempt.budget d.settings t ≤ turns) :
    (dispatchWithin turns d c deadlines step).Ends (Dispatcher.dispatchWithin d c deadlines step)
      (Step.allowance d.settings (Step.lines conditional step)) := by
  match step, enough with
  | ⟨id, type, description, config, onError, retry, timeout, condition, ifTrue, ifFalse, extra⟩,
    enough =>
      rw [Step.tree] at enough
      rw [dispatchWithin_eq, Dispatcher.dispatchWithin_eq]
      refine ends_runStep ends told (enough _ List.mem_cons_self) fun ds b => ?_
      cases b with
      | true =>
          exact ends_dispatchBranch ends told ds ifTrue fun t below =>
            enough t (List.mem_cons_of_mem _ (List.mem_append_left _ below))
      | false =>
          exact ends_dispatchBranch ends told ds ifFalse fun t below =>
            enough t (List.mem_cons_of_mem _ (List.mem_append_right _ below))

theorem ends_dispatchBranch (ends : d.registry.Ends) (told : d.registry.Tells conditional)
    (deadlines : List Float) (branch : Option (List Step))
    (enough : ∀ t ∈ Step.branchTree branch, Attempt.budget d.settings t ≤ turns) :
    (dispatchBranch turns d c deadlines branch).Ends
      (Dispatcher.dispatchBranch d c deadlines branch)
      (Step.allowance d.settings (Step.branchLines conditional branch)) := by
  match branch, enough with
  | none, _ => exact ends_still _
  | some steps, enough =>
      exact (ends_dispatchAll ends told deadlines steps enough).bind_still
        fun _ _ _ _ => ends_still _

theorem ends_dispatchAll (ends : d.registry.Ends) (told : d.registry.Tells conditional)
    (deadlines : List Float) (steps : List Step)
    (enough : ∀ t ∈ Step.listTree steps, Attempt.budget d.settings t ≤ turns) :
    (dispatchAll turns d c deadlines steps).Ends (Dispatcher.dispatchAll d c deadlines steps)
      (Step.allowance d.settings (Step.listLines conditional steps)) := by
  match steps, enough with
  | [], _ => exact ends_still _
  | step :: rest, enough =>
      rw [Step.listTree] at enough
      rw [Step.listLines, Step.allowance_append]
      have first := ends_dispatchWithin ends told deadlines step fun t below =>
        enough t (List.mem_append_left _ below)
      have others := ends_dispatchAll ends told deadlines rest fun t below =>
        enough t (List.mem_append_right _ below)
      refine first.bind fun _ _ _ _ => ?_
      exact others.bind_still fun _ _ _ _ => ends_still _

end

end Metered

end Workflow
