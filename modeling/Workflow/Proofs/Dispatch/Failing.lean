import Workflow.Proofs.Dispatch.Naming

/-!
# Where failures come from

A dispatch that raises something does so at its own step or because a step of a branch
raised it in the last attempt, and so on down to a step that failed by itself.  The error
that comes out at the top names this step, whatever the policies on the way are.  Faults
come out only where a configuration or a delay of the dispatched step itself is at fault:
those of the steps inside it are wrapped like what an executor raises.
-/

namespace Workflow

open Effect (bind_error)

variable {σ : Type}

/-! ## Deadlines and branches -/

/-- What leaves a step with a timeout is the timeout, or what was raised inside. -/
theorem Deadline.within_error {step : Step} {deadlines : List Float}
    {run : List Float -> Run σ Value} {w v : World σ} {r : Raised}
    (h : within step deadlines run w = .error r v) :
    (∃ seconds r' u, step.timeout = some seconds ∧
      run (opened step deadlines w) w = .error r' u ∧
      (u.expired = some deadlines.length ∨ saysTimeout r' = true) ∧
      r = .error (Failure.timedOut step seconds)) ∨
    run (opened step deadlines w) w = .error r v := by
  unfold within at h
  unfold opened
  cases limit : step.timeout with
  | none =>
      simp only [limit] at h
      exact .inr h
  | some seconds =>
      simp only [limit] at h ⊢
      cases ended : run (deadlines ++ [w.elapsed + seconds]) w with
      | ok a u => simp only [ended] at h; cases h
      | error r' u =>
          simp only [ended, beq_iff_eq] at h
          split at h
          · next expired =>
              cases h
              exact .inl ⟨seconds, r', u, rfl, rfl, .inl expired, rfl⟩
          · split at h
            · next late =>
                cases h
                exact .inl ⟨seconds, r', _, rfl, rfl, .inr late, rfl⟩
            · cases h
              exact .inr rfl

/-- The steps of a branch are smaller than the step that chooses it. -/
theorem Step.sizeOf_lt_of_branch {step sub : Step} {chosen : Bool} {steps : List Step}
    (branch : step.branch chosen = some steps) (inside : sub ∈ steps) :
    sizeOf sub < sizeOf step := by
  have within := List.sizeOf_lt_of_mem inside
  cases step with
  | mk id type description config onError retry timeout condition ifTrue ifFalse extra =>
      cases chosen with
      | true =>
          obtain rfl : ifTrue = some steps := branch
          simp only [mk.sizeOf_spec, Option.some.sizeOf_spec]
          omega
      | false =>
          obtain rfl : ifFalse = some steps := branch
          simp only [mk.sizeOf_spec, Option.some.sizeOf_spec]
          omega

namespace Dispatcher

variable {d : Dispatcher σ} {c : Context} {w v u : World σ} {r : Raised} {a b t : Turn σ}

/-- What steps of a branch raise, one of them raised after those in front of it had ended. -/
theorem dispatchAll_error {deadlines : List Float} {steps : List Step}
    (h : dispatchAll d c deadlines steps w = .error r v) :
    ∃ front sub back outputs z, steps = front ++ sub :: back ∧
      dispatchAll d c deadlines front w = .ok outputs z ∧
      dispatchWithin d c deadlines sub z = .error r v := by
  induction steps generalizing w with
  | nil => cases h
  | cons s rest ih =>
      simp only [dispatchAll] at h
      rcases bind_error h with first | ⟨o, u, passed, later⟩
      · exact ⟨[], s, rest, [], w, rfl, rfl, first⟩
      · rcases bind_error later with inner | ⟨_, _, _, none⟩
        · obtain ⟨front, sub, back, outputs, z, rfl, before, failed⟩ := ih inner
          refine ⟨s :: front, sub, back, o.output :: outputs, z, rfl, ?_, failed⟩
          simp only [dispatchAll, bind, EStateM.bind, passed, before]
          rfl
        · cases none

/-! ## One invocation -/

/-- One invocation of the executor of a step. -/
def invocationBy (d : Dispatcher σ) (c : Context) (t : Turn σ) (handler : Handler σ)
    (config : Value) : Run σ Value :=
  Deadline.within t.step t.deadlines (invoke handler t.step config c (choose d c t.step))

/-- The dispatch of a step gets to the attempts, with an executor and a configuration. -/
structure Ready (d : Dispatcher σ) (c : Context) (t : Turn σ) (handler : Handler σ)
    (config : Value) (u : World σ) : Prop where
  handled : d.registry.handlers.get? t.step.type = some handler
  configured : configOf c t.step t.world = .ok config u

/-- The attempts that begin in the dispatch of a step. -/
abbrev Tries (d : Dispatcher σ) (t : Turn σ) (invocation : Run σ Value) (u : World σ) :
    Nat -> Int -> World σ -> Prop :=
  Attempt.Begins d.settings t.step invocation u

/-- An invocation of a step that begins in a world dispatches a step of a branch. -/
inductive Runs (d : Dispatcher σ) (c : Context) (t : Turn σ) (v : World σ) : Turn σ -> Prop where
  | intro {sub : Step} {chosen : Bool} {front back : List Step} {outputs : List Value}
      {u z : World σ} (decided : Condition.decide c t.step.condition v = .ok chosen u)
      (branch : t.step.branch chosen = some (front ++ sub :: back))
      (before : dispatchAll d c (Deadline.opened t.step t.deadlines v) front u = .ok outputs z) :
      Runs d c t v ⟨sub, Deadline.opened t.step t.deadlines v, z⟩

theorem Runs.sizeOf_lt (h : Runs d c a v b) : sizeOf b.step < sizeOf a.step := by
  cases h with
  | intro decided branch before =>
      exact Step.sizeOf_lt_of_branch branch (List.mem_append_right _ List.mem_cons_self)

theorem Runs.opens {config : Value} {left : Nat} {attempt : Int} (h : Runs d c a v b)
    (ready : Ready d c a .conditional config u)
    (begun : Tries d a (invocationBy d c a .conditional config) u left attempt v) :
    Opens d c a b := by
  cases h with
  | intro decided branch before =>
      exact .intro ready.handled ready.configured begun decided branch before

/-- What the step of a branch raises, choosing the branch does. -/
theorem Runs.invoke_of_error (h : Runs d c a v b) (failed : took d c b = .error r w)
    (config : Value) :
    invoke .conditional a.step config c (choose d c a.step)
      (Deadline.opened a.step a.deadlines v) v = .error r w := by
  cases h with
  | intro decided branch before =>
      refine invoke_conditional_of_error decided ?_
      simp only [choose, branch, dispatchBranch, bind, EStateM.bind,
        dispatchAll_of_error before failed]

/-- What an invocation raises by itself, and not a step that it dispatches. -/
inductive RaisesItself (d : Dispatcher σ) (c : Context) (t : Turn σ) (config : Value)
    (v : World σ) : Handler σ -> Raised -> Prop where
  /-- The timeout of the step ran out. -/
  | late {handler : Handler σ} {seconds : Float} {r : Raised} {u : World σ}
      (limit : t.step.timeout = some seconds)
      (ended : invoke handler t.step config c (choose d c t.step)
        (Deadline.opened t.step t.deadlines v) v = .error r u)
      (elapsed : u.expired = some t.deadlines.length ∨ Deadline.saysTimeout r = true) :
      RaisesItself d c t config v handler (.error (Failure.timedOut t.step seconds))
  | builtin {b : Builtin} {r : Raised} {o : Objects}
      (ended : b.run t.step (v.objects.refresh config) c v.objects = .error r o) :
      RaisesItself d c t config v (.builtin b) r
  | plugin {p : Plugin σ} {r : Raised} {executors : σ}
      (ended : p.invoke t.step (v.objects.refresh config) (c.current v.objects) v.executors =
        (.raised r, executors)) : RaisesItself d c t config v (.plugin p) r
  /-- The invocation did not end by itself and was cut off. -/
  | cut {p : Plugin σ} {executors : σ}
      (ended : p.invoke t.step (v.objects.refresh config) (c.current v.objects) v.executors =
        (.endless, executors)) : RaisesItself d c t config v (.plugin p) .cancelled
  | condition {r : Raised} {u : World σ}
      (ended : Condition.decide c t.step.condition v = .error r u) :
      RaisesItself d c t config v .conditional r

theorem RaisesItself.fits (untold : d.registry.Untold) {handler : Handler σ} {config : Value}
    (handled : d.registry.handlers.get? t.step.type = some handler)
    (h : RaisesItself d c t config v handler r) : r.Fits t.step := by
  cases h with
  | late limit ended elapsed => exact Raised.fits_error (Failure.fits_timedOut ..)
  | builtin ended => exact Builtin.run_fits ended
  | plugin ended =>
      rintro e rfl
      exact (untold _ _ handled _ _ _ _ _ _ ended).fits t.step
  | cut ended => exact Raised.fits_cancelled t.step
  | condition ended => exact Condition.decide_fits ended t.step

/-- What an invocation raises, it raised by itself, or a step of a branch did. -/
theorem invocationBy_error {handler : Handler σ} {config : Value}
    (h : invocationBy d c t handler config v = .error r w) :
    RaisesItself d c t config v handler r ∨
      (handler = .conditional ∧ ∃ b, Runs d c t v b ∧ took d c b = .error r w) := by
  rcases Deadline.within_error h with ⟨seconds, r', u, limit, ended, elapsed, rfl⟩ | inside
  · exact .inl (.late limit ended elapsed)
  · have looked : (Run.current config : Run σ Value) v = .ok (v.objects.refresh config) v := rfl
    simp only [invoke, bind, EStateM.bind, looked] at inside
    cases handler with
    | builtin b =>
        obtain ⟨o, ended⟩ := Run.changing_error inside
        exact .inl (.builtin ended)
    | plugin p =>
        unfold Deadline.invoke at inside
        rcases hi : p.invoke t.step (v.objects.refresh config) (c.current v.objects) v.executors
          with ⟨ending, executors⟩
        cases ending <;> simp only [hi] at inside <;> cases inside
        · exact .inl (.plugin hi)
        · exact .inl (.cut hi)
    | conditional =>
        rcases bind_error inside with undecided | ⟨chosen, u, decided, later⟩
        · exact .inl (.condition undecided)
        · rcases bind_error later with branch | ⟨_, _, _, none⟩
          · refine .inr ⟨rfl, ?_⟩
            unfold choose at branch
            cases hb : t.step.branch chosen with
            | none => simp only [hb, dispatchBranch] at branch; cases branch
            | some steps =>
                simp only [hb, dispatchBranch] at branch
                rcases bind_error branch with failed | ⟨_, _, _, none⟩
                · obtain ⟨front, sub, back, outputs, z, rfl, before, failed⟩ :=
                    dispatchAll_error failed
                  exact ⟨_, .intro decided hb before, failed⟩
                · cases none
          · cases none

/-! ## One dispatch -/

theorem configOf_error {step : Step} (h : configOf c step w = .error r v) :
    ∃ f, r = .fault f := by
  rcases bind_error h with looked | ⟨_, _, _, later⟩
  · cases looked
  · rcases bind_error later with resolved | ⟨_, _, _, owned⟩
    · exact Run.resolving_error resolved
    · cases owned

/-- A fault of the configuration leaves the dispatch. -/
theorem runStep_of_fault {deadlines : List Float} {step : Step} {handler : Handler σ}
    {choose : List Float -> Bool -> Run σ (Option (List Value))}
    (handled : d.registry.handlers.get? step.type = some handler)
    (faulty : configOf c step w = .error r v) :
    runStep d c deadlines step choose w = .error r v := by
  have clock : (Run.now : Run σ DateTime) w = .ok w.fresh.now w := rfl
  have found : d.registry.get step.type (some step.id) = .ok handler := by
    rw [Registry.get, handled]
  have taken : (Run.ofResult (.ok handler) : Run σ (Handler σ)) w = .ok handler w := rfl
  simp only [runStep, bind, EStateM.bind, clock, found, taken, faulty]

/-- The stages of a dispatch that raise something. -/
theorem took_error (h : took d c t = .error r v) :
    (d.registry.handlers.get? t.step.type = none ∧ r = .error (unknownType t.step)) ∨
    (∃ handler u, d.registry.handlers.get? t.step.type = some handler ∧
      configOf c t.step t.world = .error r u) ∨
    ∃ handler config u, Ready d c t handler config u ∧
      Attempt.run d.settings t.step (invocationBy d c t handler config) u = .error r v := by
  rw [took, dispatchWithin_eq] at h
  have clock : (Run.now : Run σ DateTime) t.world = .ok t.world.fresh.now t.world := rfl
  simp only [runStep] at h
  rcases bind_error h with read | ⟨_, _, read, h⟩
  · cases read
  · rw [clock] at read
    cases read
    cases handled : d.registry.handlers.get? t.step.type with
    | none =>
        have lost : d.registry.get t.step.type (some t.step.id) = .error (unknownType t.step) := by
          rw [Registry.get, handled]
          rfl
        rw [lost] at h
        rcases bind_error h with refused | ⟨_, _, found, _⟩
        · cases refused
          exact .inl ⟨rfl, rfl⟩
        · cases found
    | some handler =>
        have found : d.registry.get t.step.type (some t.step.id) = .ok handler := by
          rw [Registry.get, handled]
        rw [found] at h
        rcases bind_error h with taken | ⟨_, _, taken, h⟩
        · cases taken
        · cases taken
          rcases bind_error h with unresolved | ⟨config, u, configured, h⟩
          · exact .inr (.inl ⟨handler, _, rfl, unresolved⟩)
          · rcases bind_error h with tried | ⟨_, _, _, ended⟩
            · exact .inr (.inr ⟨handler, config, u, ⟨handled, configured⟩, tried⟩)
            · rcases bind_error ended with owned | ⟨_, _, _, timed⟩
              · cases owned
              · rcases bind_error timed with read | ⟨_, _, _, none⟩
                · cases read
                · cases none

/-! ## Faults -/

/-- A fault comes up at a step where no policy applies to it. -/
inductive Slips (d : Dispatcher σ) (c : Context) (t : Turn σ) (f : Fault) : Prop where
  /-- The configuration cannot be resolved. -/
  | config {handler : Handler σ} {u : World σ}
      (handled : d.registry.handlers.get? t.step.type = some handler)
      (faulty : configOf c t.step t.world = .error (.fault f) u)
  /-- The delay after an attempt that failed cannot be computed. -/
  | delay {handler : Handler σ} {config : Value} {u v x : World σ} {left : Nat} {attempt : Int}
      {r : Raised} {e : Error} (ready : Ready d c t handler config u)
      (begun : Tries d t (invocationBy d c t handler config) u (left + 1) attempt v)
      (failed : invocationBy d c t handler config v = .error r x)
      (classified : Failure.classify? t.step attempt r = some e)
      (faulty : Backoff.delay d.settings x.chance t.step.retry attempt = .error f)

/-- What the attempts decide, the dispatch raises. -/
theorem took_of_run {handler : Handler σ} {config : Value} (ready : Ready d c t handler config u)
    (h : Attempt.run d.settings t.step (invocationBy d c t handler config) u = .error r v) :
    took d c t = .error r v := by
  rw [took, dispatchWithin_eq]
  exact runStep_of_error ready.handled ready.configured h

/-- A fault leaves the dispatch of a step exactly when it comes up outside of the attempts. -/
theorem took_fault_iff {f : Fault} :
    (∃ v, took d c t = .error (.fault f) v) ↔ Slips d c t f := by
  constructor
  · rintro ⟨v, h⟩
    rcases took_error h with ⟨-, unknown⟩ | ⟨handler, u, handled, faulty⟩ |
      ⟨handler, config, u, ready, tried⟩
    · cases unknown
    · exact .config handled faulty
    · cases Attempt.run_error tried with
      | passed begun failed fatal => exact fatal.elim
      | stuck begun failed classified waiting => exact .delay ready begun failed classified waiting
  · intro slips
    cases slips with
    | @config handler u handled faulty =>
        refine ⟨u, ?_⟩
        rw [took, dispatchWithin_eq]
        exact runStep_of_fault handled faulty
    | delay ready begun failed classified faulty =>
        exact ⟨_, took_of_run ready (Attempt.run_of_stuck begun failed classified faulty)⟩

/-- The dispatch of a step fails because that of a step of a branch did so in the last attempt. -/
inductive Blames (d : Dispatcher σ) (c : Context) : Turn σ -> Turn σ -> Prop where
  | intro {a b : Turn σ} {config : Value} {u v y : World σ} {left : Nat} {attempt : Int}
      {r : Raised} (ready : Ready d c a .conditional config u)
      (begun : Tries d a (invocationBy d c a .conditional config) u left attempt v)
      (runs : Runs d c a v b) (failed : took d c b = .error r y)
      (passed : invocationBy d c a .conditional config v = .error r y)
      (last : left = 0 ∨ r.IsFatal) : Blames d c a b

/-- From a step down to one that its dispatch failed at, through any number of branches. -/
abbrev Descends (d : Dispatcher σ) (c : Context) : Turn σ -> Turn σ -> Prop :=
  Relation.ReflTransGen (Blames d c)

theorem Blames.opens (h : Blames d c a b) : Opens d c a b := by
  cases h with
  | intro ready begun runs failed passed last => exact runs.opens ready begun

theorem Descends.reaches (h : Descends d c a b) : Reaches d c a b := by
  induction h with
  | refl => exact .refl
  | tail _ blames ih => exact ih.tail blames.opens

/-- The last attempt of a step without timeout raises the error of a step of its branch again. -/
theorem Runs.took_of_error {config : Value} {attempt : Int} {e : Error} (h : Runs d c a v b)
    (ready : Ready d c a .conditional config u)
    (begun : Tries d a (invocationBy d c a .conditional config) u 0 attempt v)
    (failed : took d c b = .error (.error e) w) (handled : e.isUnknownStepType = false)
    (unlimited : a.step.timeout = none) (last : a.step.onError ≠ .proceed) :
    ∃ z, took d c a = .error (.error (Failure.assign a.step attempt e)) z := by
  have inside := h.invoke_of_error failed config
  have passed : invocationBy d c a .conditional config v = .error (.error e) w := by
    simp only [Deadline.opened, unlimited] at inside
    simp only [invocationBy, Deadline.within, unlimited, inside]
  have classified : Failure.classify? a.step attempt (.error e) =
      some (Failure.assign a.step attempt e) := by
    simp only [Failure.classify?, handled, Bool.false_eq_true, if_false]
  obtain ⟨z, settled, -⟩ := Attempt.settle_of_last last (Backoff.maxAttempts d.settings a.step)
    attempt (Failure.assign a.step attempt e) w
  refine ⟨z, took_of_run ready ?_⟩
  rw [Attempt.run_of_begins begun, Attempt.startingAt,
    Attempt.once_of_classified passed classified, settled]

/--
The dispatch of a step fails at the step itself: there is no executor for it, or in the
last attempt its executor or its condition raised something, or its timeout ran out.
-/
inductive FailsItself (d : Dispatcher σ) (c : Context) (t : Turn σ) : Prop where
  | unregistered (lost : d.registry.handlers.get? t.step.type = none)
  | raised {handler : Handler σ} {config : Value} {u v : World σ} {attempt : Int} {r : Raised}
      (ready : Ready d c t handler config u)
      (begun : Tries d t (invocationBy d c t handler config) u 0 attempt v)
      (raised : RaisesItself d c t config v handler r) (failure : r ≠ .cancelled)

/-- The dispatch of a step fails because a fault left that of a step of a branch. -/
def Strays (d : Dispatcher σ) (c : Context) (t : Turn σ) : Prop :=
  ∃ sub f, Blames d c t sub ∧ Slips d c sub f

/-- The error that leaves the dispatch of a step names another one, at which it failed. -/
structure Accuses (d : Dispatcher σ) (c : Context) (a : Turn σ) (e : Error) (b : Turn σ) :
    Prop where
  descends : Descends d c a b
  origin : FailsItself d c b ∨ Strays d c b
  names : e.Names b.step
  /-- That dispatch raised an error of the same sort. -/
  ended : ∃ e' v, took d c b = .error (.error e') v ∧
    e'.kind.executor?.isSome = e.kind.executor?.isSome

/-- The steps above the one that an error names do not change whom it accuses. -/
theorem Accuses.above {e e' : Error} (blames : Blames d c a b) (h : Accuses d c b e t)
    (names : e'.Names t.step) (same : e'.kind.executor?.isSome = e.kind.executor?.isSome) :
    Accuses d c a e' t := by
  obtain ⟨e'', v, ended, sort⟩ := h.ended
  exact ⟨.head blames h.descends, h.origin, names, e'', v, ended, sort.trans same.symm⟩

theorem accuses_self {e : Error} (h : took d c a = .error (.error e) v)
    (origin : FailsItself d c a ∨ Strays d c a) (names : e.Names a.step) : Accuses d c a e a :=
  ⟨.refl, origin, names, e, v, h, rfl⟩

theorem names_unknownType (step : Step) : (unknownType step).Names step :=
  ⟨rfl, nofun⟩

/-- The error of a dispatch names a step that it failed at. -/
theorem took_accuses (untold : d.registry.Untold) {e : Error}
    (h : took d c a = .error (.error e) v) : ∃ b, Accuses d c a e b := by
  -- the induction is on the step, from those of its branches up
  generalize size : sizeOf a.step = n
  induction n using Nat.strongRecOn generalizing a e v with
  | ind n ih =>
      subst size
      rcases took_error h with ⟨lost, unknown⟩ | ⟨handler, u, handled, faulty⟩ |
        ⟨handler, config, u, ready, tried⟩
      · cases unknown
        exact ⟨a, accuses_self h (.inl (.unregistered lost)) (names_unknownType a.step)⟩
      · obtain ⟨f, same⟩ := configOf_error faulty
        cases same
      · cases Attempt.run_error tried with
        | @passed left attempt v' u' _ begun failed fatal =>
            rcases invocationBy_error failed with itself | ⟨rfl, b, runs, inner⟩
            · have fits := itself.fits untold ready.handled e rfl
              have unhandled : e.isUnknownStepType = true := fatal
              rw [fits.handled] at unhandled
              cases unhandled
            · obtain ⟨t, accuses⟩ := ih _ runs.sizeOf_lt inner rfl
              exact ⟨t, accuses.above (.intro ready begun runs inner failed (.inr fatal))
                accuses.names rfl⟩
        | @spent attempt v' u' r _ begun failed classified =>
            rcases invocationBy_error failed with itself | ⟨rfl, b, runs, inner⟩
            · have fits := itself.fits untold ready.handled
              have failure := Failure.ne_cancelled_of_classify? classified
              exact ⟨a, accuses_self h (.inl (.raised ready begun itself failure))
                (Failure.names_of_classify? classified fits)⟩
            · have blames : Blames d c a b := .intro ready begun runs inner failed (.inl rfl)
              rcases Failure.classify?_eq_some classified with ⟨e', rfl, rfl⟩ | ⟨f, rfl, rfl⟩
              · obtain ⟨t, accuses⟩ := ih _ runs.sizeOf_lt inner rfl
                exact ⟨t, accuses.above blames (Failure.names_assign_of_names accuses.names attempt)
                  (Failure.isSome_executor?_assign ..)⟩
              · exact ⟨a, accuses_self h (.inr ⟨b, f, blames, took_fault_iff.mp ⟨_, inner⟩⟩)
                  (Failure.names_wrap ..)⟩

/-! ## The invocations in a dispatch -/

/-- The worlds in which the executor of a step is invoked in its dispatch, in order. -/
def invocations (d : Dispatcher σ) (c : Context) (t : Turn σ) : List (World σ) :=
  match d.registry.handlers.get? t.step.type with
  | none => []
  | some handler =>
      match configOf c t.step t.world with
      | .error _ _ => []
      | .ok config u => Attempt.invocations d.settings t.step (invocationBy d c t handler config) u

/-- A failure of an executor leaves a dispatch after all its attempts, with their number. -/
theorem invocations_of_took {e : Error} {f : ExecutorFailure}
    (h : took d c t = .error (.error e) v) (carried : e.kind.executor? = some f) :
    (invocations d c t).length = Attempt.budget d.settings t.step ∧
      f.attempts = .int (Attempt.budget d.settings t.step) := by
  rcases took_error h with ⟨-, unknown⟩ | ⟨handler, u, handled, faulty⟩ |
    ⟨handler, config, u, ready, tried⟩
  · cases unknown
    cases carried
  · obtain ⟨g, same⟩ := configOf_error faulty
    cases same
  · simp only [invocations, ready.handled, ready.configured]
    exact Attempt.invocations_of_error tried carried

end Dispatcher

end Workflow
