import Mathlib.Logic.Relation
import Workflow.Proofs.Dispatch.Expiry

/-!
# Dispatches inside dispatches

A step that chooses between branches dispatches the steps of one of them, at any depth,
and each dispatch has attempts, a deadline and a policy of its own.  A cancellation, and
the error of a step without executor, pass all of them: the dispatch of each step on the
way ends at once with what was raised, in the world in which it was raised.
-/

namespace Workflow

variable {σ : Type}

/-- No policy applies to what was raised. -/
def Raised.IsFatal : Raised -> Prop
  | .cancelled => True
  | .error e => e.isUnknownStepType = true
  | .fault _ => False

theorem Failure.classify?_of_fatal {r : Raised} (h : r.IsFatal) (step : Step) (attempt : Int) :
    classify? step attempt r = none := by
  cases r with
  | cancelled => rfl
  | error e => exact if_pos h
  | fault f => exact h.elim

theorem Deadline.saysTimeout_of_fatal {r : Raised} (h : r.IsFatal) : saysTimeout r = false := by
  cases r with
  | fault f => exact h.elim
  | _ => rfl

/-! ## Attempts -/

namespace Attempt

/-- The attempts that begin, with so many left after them, and the worlds they begin in. -/
inductive Begins (s : Settings) (step : Step) (invoke : Run σ Value) (w : World σ) :
    Nat -> Int -> World σ -> Prop where
  | first : Begins s step invoke w (Backoff.maxAttempts s step - 1).toNat 1 w
  | again {left : Nat} {attempt : Int} {v t u : World σ} {r : Raised} {e : Error}
      (before : Begins s step invoke w (left + 1) attempt v) (failed : invoke v = .error r t)
      (classified : Failure.classify? step attempt r = some e)
      (waited : pause s step (Backoff.maxAttempts s step) attempt r e t = .ok () u) :
      Begins s step invoke w left (attempt + 1) u

variable {s : Settings} {step : Step} {invoke : Run σ Value} {w v u : World σ} {r : Raised}

theorem once_of_classified {attempt : Int} {e : Error}
    {onFailure : Raised -> Error -> Run σ Attempted} (failed : invoke w = .error r v)
    (classified : Failure.classify? step attempt r = some e) :
    once step attempt invoke onFailure w = onFailure r e v := by
  simp only [once, Run.attempt, bind, EStateM.bind, failed, classified]

theorem once_of_fatal {attempt : Int} {onFailure : Raised -> Error -> Run σ Attempted}
    (failed : invoke w = .error r v) (fatal : r.IsFatal) :
    once step attempt invoke onFailure w = .error r v := by
  simp only [once, Run.attempt, bind, EStateM.bind, failed, Failure.classify?_of_fatal fatal]
  rfl

/-- All attempts come to what the attempts come to from one that begins. -/
theorem run_of_begins {left : Nat} {attempt : Int} (begun : Begins s step invoke w left attempt v) :
    run s step invoke w =
      startingAt s step (Backoff.maxAttempts s step) invoke left attempt v := by
  induction begun with
  | first => rfl
  | again _ failed classified waited ih =>
      rw [ih, startingAt, once_of_classified failed classified]
      simp only [bind, EStateM.bind, waited]

/-- Whichever attempt meets something fatal is the last one. -/
theorem run_of_fatal {left : Nat} {attempt : Int} (begun : Begins s step invoke w left attempt v)
    (failed : invoke v = .error r u) (fatal : r.IsFatal) : run s step invoke w = .error r u := by
  rw [run_of_begins begun]
  cases left <;> exact once_of_fatal failed fatal

theorem Begins.calm {n left : Nat} {attempt : Int} (begun : Begins s step invoke w left attempt v)
    (timely : Run.Timely n invoke) (calm : w.expired = none) : v.expired = none := by
  induction begun with
  | first => exact calm
  | again _ failed classified waited ih =>
      have after := timely.failed ih failed (Failure.ne_cancelled_of_classify? classified)
      exact (timely_pause (n := n) s step _ _ _ _).ok after waited

end Attempt

/-! ## Deadlines -/

namespace Deadline

/-- The deadlines that are open inside a step. -/
def opened (step : Step) (deadlines : List Float) (w : World σ) : List Float :=
  match step.timeout with
  | none => deadlines
  | some seconds => deadlines ++ [w.elapsed + seconds]

/-- A step that no deadline has run out for passes on what is fatal. -/
theorem within_of_fatal {step : Step} {deadlines : List Float} {run : List Float -> Run σ Value}
    {w v : World σ} {r : Raised} (failed : run (opened step deadlines w) w = .error r v)
    (fatal : r.IsFatal) (calm : v.expired = none) :
    within step deadlines run w = .error r v := by
  unfold opened at failed
  unfold within
  cases limit : step.timeout with
  | none => simpa only [limit] using failed
  | some seconds =>
      simp only [limit] at failed
      simp [failed, calm, saysTimeout_of_fatal fatal]

end Deadline

/-! ## Steps of branches -/

/-- The steps for a truth value. -/
def Step.branch (s : Step) (chosen : Bool) : Option (List Step) :=
  if chosen then s.ifTrue else s.ifFalse

/-- A step when its turn comes, at any depth: among which open deadlines, in which world. -/
structure Turn (σ : Type) where
  step : Step
  deadlines : List Float
  world : World σ

namespace Dispatcher

variable {d : Dispatcher σ} {c : Context} {deadlines : List Float} {w v u : World σ} {r : Raised}

/-- Run the branch for a truth value. -/
def choose (d : Dispatcher σ) (c : Context) (step : Step) (deadlines : List Float)
    (chosen : Bool) : Run σ (Option (List Value)) :=
  dispatchBranch d c deadlines (step.branch chosen)

theorem dispatchWithin_eq (d : Dispatcher σ) (c : Context) (deadlines : List Float) (step : Step) :
    dispatchWithin d c deadlines step = runStep d c deadlines step (choose d c step) := by
  have branches : (fun (ds : List Float) (chosen : Bool) =>
      if chosen then dispatchBranch d c ds step.ifTrue else dispatchBranch d c ds step.ifFalse) =
      choose d c step := by
    funext ds chosen
    cases chosen <;> rfl
  rw [← branches]
  cases step
  rfl

/-- What a dispatch in its turn comes to. -/
def took (d : Dispatcher σ) (c : Context) (t : Turn σ) :
    EStateM.Result Raised (World σ) StepOutcome :=
  dispatchWithin d c t.deadlines t.step t.world

/-- One invocation of the executor of a step that chooses between branches. -/
def invocation (d : Dispatcher σ) (c : Context) (step : Step) (deadlines : List Float)
    (config : Value) : Run σ Value :=
  Deadline.within step deadlines (invoke .conditional step config c (choose d c step))

/--
The dispatch of a step dispatches a step of one of its branches: an attempt began, the
condition was decided, and the steps in front of it in the branch ended.
-/
inductive Opens (d : Dispatcher σ) (c : Context) : Turn σ -> Turn σ -> Prop where
  | intro {step sub : Step} {deadlines : List Float} {w u v t z : World σ} {config : Value}
      {left : Nat} {attempt : Int} {chosen : Bool} {front back : List Step} {outputs : List Value}
      (handled : d.registry.handlers.get? step.type = some .conditional)
      (configured : configOf c step w = .ok config u)
      (begun : Attempt.Begins d.settings step (invocation d c step deadlines config) u left attempt v)
      (decided : Condition.decide c step.condition v = .ok chosen t)
      (branch : step.branch chosen = some (front ++ sub :: back))
      (before : dispatchAll d c (Deadline.opened step deadlines v) front t = .ok outputs z) :
      Opens d c ⟨step, deadlines, w⟩ ⟨sub, Deadline.opened step deadlines v, z⟩

/-- The dispatch of a step dispatches another one, through any number of branches. -/
abbrev Reaches (d : Dispatcher σ) (c : Context) : Turn σ -> Turn σ -> Prop :=
  Relation.ReflTransGen (Opens d c)

/-- The steps behind one that raises something are not dispatched. -/
theorem dispatchAll_of_error {front : List Step} {outputs : List Value}
    (before : dispatchAll d c deadlines front w = .ok outputs v) {sub : Step}
    (failed : dispatchWithin d c deadlines sub v = .error r u) (back : List Step) :
    dispatchAll d c deadlines (front ++ sub :: back) w = .error r u := by
  induction front generalizing w outputs with
  | nil =>
      cases before
      simp only [List.nil_append, dispatchAll, bind, EStateM.bind, failed]
  | cons s rest ih =>
      simp only [dispatchAll, bind, EStateM.bind] at before
      simp only [List.cons_append, dispatchAll, bind, EStateM.bind]
      cases hs : dispatchWithin d c deadlines s w with
      | error r' t => simp only [hs] at before; cases before
      | ok o t =>
          simp only [hs] at before ⊢
          cases hr : dispatchAll d c deadlines rest t with
          | error r' z => simp only [hr] at before; cases before
          | ok later z =>
              simp only [hr, pure, EStateM.pure] at before
              cases before
              rw [ih hr]

theorem invoke_conditional_of_error {step : Step} {config : Value} {chosen : Bool}
    {choose : List Float -> Bool -> Run σ (Option (List Value))}
    (decided : Condition.decide c step.condition w = .ok chosen v)
    (failed : choose deadlines chosen v = .error r u) :
    invoke .conditional step config c choose deadlines w = .error r u := by
  have looked : (Run.current config : Run σ Value) w = .ok (w.objects.refresh config) w := rfl
  simp only [invoke, bind, EStateM.bind, looked, decided, failed]

/-- The attempts at a step decide how its dispatch ends, once its configuration is resolved. -/
theorem runStep_of_error {step : Step} {handler : Handler σ} {config : Value}
    {choose : List Float -> Bool -> Run σ (Option (List Value))}
    (handled : d.registry.handlers.get? step.type = some handler)
    (configured : configOf c step w = .ok config v)
    (failed : Attempt.run d.settings step
      (Deadline.within step deadlines (invoke handler step config c choose)) v = .error r u) :
    runStep d c deadlines step choose w = .error r u := by
  have clock : (Run.now : Run σ DateTime) w = .ok w.fresh.now w := rfl
  have found : d.registry.get step.type (some step.id) = .ok handler := by
    rw [Registry.get, handled]
  have taken : (Run.ofResult (.ok handler) : Run σ (Handler σ)) w = .ok handler w := rfl
  simp only [runStep, bind, EStateM.bind, clock, found, taken, configured, failed]

/-- What a step raises that is fatal, the step raises that chose it, in the same world. -/
theorem Opens.took_of_fatal {a b : Turn σ} (h : Opens d c a b) (ended : took d c b = .error r v)
    (fatal : r.IsFatal) (calm : v.expired = none) : took d c a = .error r v := by
  cases h with
  | @intro step sub deadlines w u b t z config left attempt chosen front back outputs handled
      configured begun decided branch before =>
      have chose : choose d c step (Deadline.opened step deadlines b) chosen t = .error r v := by
        simp only [choose, branch, dispatchBranch, bind, EStateM.bind,
          dispatchAll_of_error before ended back]
      have invoked : invocation d c step deadlines config b = .error r v :=
        Deadline.within_of_fatal (invoke_conditional_of_error decided chose) fatal calm
      have tried := Attempt.run_of_fatal begun invoked fatal
      rw [took, dispatchWithin_eq]
      exact runStep_of_error handled configured tried

theorem timely_choose (d : Dispatcher σ) (c : Context) (step : Step) (deadlines : List Float)
    (chosen : Bool) : Run.Timely deadlines.length (choose d c step deadlines chosen) :=
  timely_dispatchBranch d c deadlines (step.branch chosen)

/-- No deadline has run out when the turn of a step comes. -/
theorem Opens.calm {a b : Turn σ} (h : Opens d c a b) (calm : a.world.expired = none) :
    b.world.expired = none := by
  cases h with
  | @intro step sub deadlines w u b t z config left attempt chosen front back outputs handled
      configured begun decided branch before =>
      have ready := (timely_configOf (n := 0) c step).ok calm configured
      have timely : Run.Timely deadlines.length (invocation d c step deadlines config) :=
        Deadline.timely_within step deadlines fun ds =>
          timely_invoke .conditional step config c (timely_choose d c step) ds
      have started := begun.calm timely ready
      have chosen := (Condition.timely_decide (n := 0) c step.condition).ok started decided
      exact (timely_dispatchAll d c _ front).ok chosen before

theorem Reaches.took_of_fatal {a b : Turn σ} (h : Reaches d c a b)
    (ended : took d c b = .error r v) (fatal : r.IsFatal) (calm : v.expired = none) :
    took d c a = .error r v := by
  induction h using Relation.ReflTransGen.head_induction_on with
  | refl => exact ended
  | head opens _ ih => exact opens.took_of_fatal ih fatal calm

theorem Reaches.calm {a b : Turn σ} (h : Reaches d c a b) (calm : a.world.expired = none) :
    b.world.expired = none := by
  induction h with
  | refl => exact calm
  | tail _ opens ih => exact opens.calm ih

/-! ## Steps without executor -/

/-- The error of a step whose type has no executor. -/
def unknownType (step : Step) : Error :=
  Error.unknownStepType (.str step.type) (.str step.id) .null

/-- A step without executor ends at once with its error. -/
theorem took_of_unknown {t : Turn σ} (h : d.registry.handlers.get? t.step.type = none) :
    took d c t = .error (.error (unknownType t.step)) t.world := by
  rw [took, dispatchWithin_eq]
  have clock : (Run.now : Run σ DateTime) t.world = .ok t.world.fresh.now t.world := rfl
  have lost : d.registry.get t.step.type (some t.step.id) = .error (unknownType t.step) := by
    rw [Registry.get, h]
    rfl
  have refused : (Run.ofResult (.error (unknownType t.step)) : Run σ (Handler σ)) t.world =
      .error (.error (unknownType t.step)) t.world := rfl
  simp only [runStep, bind, EStateM.bind, clock, lost, refused]

end Dispatcher

end Workflow
