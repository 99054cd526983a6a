import Workflow.Proofs.Execution.Lifecycle

/-!
# Causality of a run

Two executions that start alike and share their first steps go through those steps
alike: what is declared after a step changes neither what the step sees nor what it
gives.  It can only change, later on, what a value holds that the step gave.
-/

namespace Workflow

/-- A result with what its output holds by now. -/
def StepResult.seen (o : Objects) (r : StepResult) : StepResult :=
  { r with output := o.refresh r.output }

namespace Engine

variable {σ : Type}

/-! ## From where the steps start -/

/-- What the steps of an execution start from. -/
structure Launch (σ : Type) where
  definition : Definition
  context : Context
  record : Execution
  world : World σ

/-- What the steps of an execution start from; nothing when it does not start. -/
def launch? (e : Engine σ) (env : Environment) (name : String)
    (inputs extra : List (Value × Value)) (w : World σ) : Option (Launch σ) :=
  match prepare e name inputs w with
  | ((_, .error _), _) => none
  | ((f, .ok (definition, given)), v) =>
      let ((_, c, x), v) := openRecord f env definition given extra v
      some ⟨definition, c, x, v⟩

/-- The dispatcher of an engine. -/
def dispatcher (e : Engine σ) : Dispatcher σ :=
  ⟨e.settings, e.registry⟩

/-- The dispatches of an execution in order, not counting those inside branches. -/
def dispatches (e : Engine σ) (env : Environment) (name : String)
    (inputs extra : List (Value × Value)) (w : World σ) : List (Visit σ) :=
  match launch? e env name inputs extra w with
  | none => []
  | some l => visits e.dispatcher ⟨l.context, []⟩ l.definition.steps l.world

/-- The world after the first steps of an execution. -/
def worldAfter (e : Engine σ) (env : Environment) (name : String)
    (inputs extra : List (Value × Value)) (w : World σ) (k : Nat) : World σ :=
  match launch? e env name inputs extra w with
  | none => w
  | some l => (advanceAll e.dispatcher ⟨l.context, []⟩ (l.definition.steps.take k) l.world).2

/-- An execution is the run of its steps from where they start, entered in the ledger. -/
theorem execute_of_launch {e : Engine σ} {env : Environment} {name : String}
    {inputs extra : List (Value × Value)} {w : World σ} {l : Launch σ}
    (h : launch? e env name inputs extra w = some l) :
    let ran := runToEnd e.dispatcher l.definition l.context l.record l.world
    let done := execute e env name inputs extra w
    done.1.1.ledger.get? l.record.id = some ran.1.1 ∧
      done.1.2 = (ran.1.2.map fun _ => Summary.ofExecution ran.1.1) ∧ done.2 = ran.2 ∧
      l.record.id = w.fresh.issue.1 ∧ l.context.records = [] := by
  have settings := prepare_settings e name inputs w
  have registry := prepare_registry e name inputs w
  have clock := prepare_fresh e name inputs w
  unfold launch? at h
  rcases ha : prepare e name inputs w with ⟨⟨f, _ | ⟨definition, given⟩⟩, v⟩
  · rw [ha] at h
    cases h
  · rw [ha] at h settings registry clock
    cases h
    have same : e.dispatcher = ⟨f.settings, f.registry⟩ := by
      rw [dispatcher, settings, registry]
    let opened := openRecord f env definition given extra v
    have settled := runToEnd_settles e.dispatcher definition opened.1.2.1
      (x := opened.1.2.2) rfl rfl opened.2
    have kept : ((f.ledger.add opened.1.2.2).update
        (runToEnd e.dispatcher definition opened.1.2.1 opened.1.2.2 opened.2).1.1).get?
          opened.1.2.2.id =
        some (runToEnd e.dispatcher definition opened.1.2.1 opened.1.2.2 opened.2).1.1 := by
      rw [← settled.1, Ledger.get?_update_self, settled.1, Ledger.get?_add_self]
      rfl
    unfold execute
    rw [ha]
    rw [same] at kept ⊢
    refine ⟨kept, rfl, rfl, ?_, rfl⟩
    rw [← clock]
    rfl

/-! ## Runs that share their first steps -/

/-- Two definitions agree on their name, their declared inputs and their first steps. -/
structure AgreeUpTo (k : Nat) (d₁ d₂ : Definition) : Prop where
  name : d₁.name = d₂.name
  inputs : d₁.inputs = d₂.inputs
  steps : d₁.steps.take k = d₂.steps.take k

/-- Definitions that agree are refused alike, or their steps start from the same. -/
theorem launch?_agree {e₁ e₂ : Engine σ} {name : String} {d₁ d₂ : Definition} {k : Nat}
    (h₁ : e₁.store.get? name = some d₁) (h₂ : e₂.store.get? name = some d₂)
    (agree : AgreeUpTo k d₁ d₂) (env : Environment) (inputs extra : List (Value × Value))
    (w : World σ) :
    (launch? e₁ env name inputs extra w = none ∧ launch? e₂ env name inputs extra w = none ∧
      ∃ problem, (execute e₁ env name inputs extra w).1.2 = .error problem ∧
        (execute e₂ env name inputs extra w).1.2 = .error problem) ∨
    ∃ m₁ m₂ c x v, launch? e₁ env name inputs extra w = some ⟨m₁, c, x, v⟩ ∧
      launch? e₂ env name inputs extra w = some ⟨m₂, c, x, v⟩ ∧
      m₁.steps = d₁.steps ∧ m₂.steps = d₂.steps := by
  obtain ⟨same_name, same_inputs, _⟩ := agree
  unfold launch? execute prepare
  simp only [h₁, h₂, ← same_inputs]
  cases checkInputs inputs (adoptDefaults w.objects d₁.inputs).1 with
  | error problem => exact .inl ⟨rfl, rfl, _, rfl, rfl⟩
  | ok given =>
      let declared := (adoptDefaults w.objects d₁.inputs).1
      refine .inr ⟨{ d₁ with inputs := declared }, { d₂ with inputs := declared }, _, _, _, rfl,
        ?_, rfl, rfl⟩
      simp only [Except.map, openRecord, contextOf, ← same_name]
      rfl

/-- Definitions that agree up to a step are visited alike up to it, in the same worlds. -/
theorem take_dispatches {e₁ e₂ : Engine σ} (settings : e₁.settings = e₂.settings)
    (registry : e₁.registry = e₂.registry) {name : String} {d₁ d₂ : Definition} {k : Nat}
    (h₁ : e₁.store.get? name = some d₁) (h₂ : e₂.store.get? name = some d₂)
    (agree : AgreeUpTo k d₁ d₂) (env : Environment) (inputs extra : List (Value × Value))
    (w : World σ) :
    (dispatches e₁ env name inputs extra w).take k =
        (dispatches e₂ env name inputs extra w).take k ∧
      worldAfter e₁ env name inputs extra w k = worldAfter e₂ env name inputs extra w k := by
  have same : e₁.dispatcher = e₂.dispatcher := by simp only [dispatcher, settings, registry]
  rcases launch?_agree h₁ h₂ agree env inputs extra w with
    ⟨none₁, none₂, _⟩ | ⟨m₁, m₂, c, x, v, some₁, some₂, steps₁, steps₂⟩
  · simp only [dispatches, worldAfter, none₁, none₂, and_self]
  · have front : m₁.steps.take k = m₂.steps.take k := by rw [steps₁, steps₂, agree.steps]
    simp only [dispatches, worldAfter, some₁, some₂, take_visits, same, front, and_self]

/-- A run that stops in its first steps does not depend on what would follow. -/
theorem advanceAll_of_stop {d : Dispatcher σ} {p q : Progress} {steps : List Step} {k : Nat}
    {s : Stop} {w v : World σ} (h : advanceAll d p (steps.take k) w = ((q, some s), v)) :
    advanceAll d p steps w = ((q, some s), v) := by
  have whole := advanceAll_append d p (steps.take k) (steps.drop k) w
  rw [List.take_append_drop, h] at whole
  exact whole

theorem runToEnd_congr {d : Dispatcher σ} {m₁ m₂ : Definition} {c : Context} {x : Execution}
    {p : Progress} {s : Stop} {w v : World σ}
    (h₁ : advanceAll d ⟨c, []⟩ m₁.steps w = ((p, some s), v))
    (h₂ : advanceAll d ⟨c, []⟩ m₂.steps w = ((p, some s), v)) :
    runToEnd d m₁ c x w = runToEnd d m₂ c x w := by
  simp only [runToEnd, h₁, h₂]

theorem runToEnd_results (d : Dispatcher σ) (m : Definition) (c : Context) (x : Execution)
    (w : World σ) :
    (runToEnd d m c x w).1.1.stepResults = (advanceAll d ⟨c, []⟩ m.steps w).1.1.results := by
  unfold runToEnd
  rcases advanceAll d ⟨c, []⟩ m.steps w with ⟨⟨p, _ | s⟩, v⟩
  · dsimp only
    cases outputsOf m p.context v <;> rfl
  · rfl

theorem runToEnd_stopped {d : Dispatcher σ} {m : Definition} {c : Context} {x : Execution}
    {p : Progress} {s : Stop} {w v : World σ}
    (h : advanceAll d ⟨c, []⟩ m.steps w = ((p, some s), v)) :
    ∃ r, (runToEnd d m c x w).1.2 = .error r := by
  simp only [runToEnd, h]
  exact ⟨_, rfl⟩

/-! ## What results show -/

/-- The outputs of results hold in one world what they hold in another. -/
def Lasting (rs : List StepResult) (u v : World σ) : Prop :=
  ∀ r ∈ rs, v.objects.refresh r.output = u.objects.refresh r.output

theorem Lasting.of_untouched {u v : World σ} (h : Untouched u v) (rs : List StepResult) :
    Lasting rs u v :=
  fun r _ => Objects.refresh_of_same_changes h r.output

/-- Results go on to show what they showed exactly as long as their outputs hold it. -/
theorem map_seen_iff (rs : List StepResult) (u v : World σ) :
    rs.map (StepResult.seen v.objects) = rs.map (StepResult.seen u.objects) ↔ Lasting rs u v := by
  rw [List.map_inj_left]
  constructor
  · intro h r hr
    exact congrArg StepResult.output (h r hr)
  · intro h r hr
    simp only [StepResult.seen, h r hr]

/-! ## Causality -/

/-- Every step of an execution is dispatched with what the results say of the steps before it. -/
theorem dispatches_see {e : Engine σ} {env : Environment} {name : String}
    {inputs extra : List (Value × Value)} {w : World σ} {l : Launch σ}
    (h : launch? e env name inputs extra w = some l) {x : Execution}
    (hx : (execute e env name inputs extra w).1.1.ledger.get? w.fresh.issue.1 = some x) {i : Nat}
    {v : Visit σ} (hv : (dispatches e env name inputs extra w)[i]? = some v) :
    l.definition.steps[i]? = some v.step ∧ v.progress.results = x.stepResults.take i ∧
      v.progress.context.endings = (x.stepResults.take i).map StepResult.ending := by
  obtain ⟨kept, _, _, id, empty⟩ := execute_of_launch h
  rw [id, hx] at kept
  cases kept
  have start : Progress.Aligned ⟨l.context, []⟩ := Progress.aligned_start empty
  simp only [dispatches, h] at hv
  obtain ⟨hs, hr⟩ := visit_results hv
  have aligned := start.visit (List.mem_of_getElem? hv)
  rw [runToEnd_results]
  simp only [List.length_nil, Nat.zero_add] at hr
  refine ⟨hs, hr, ?_⟩
  rw [← hr]
  exact aligned

/-- Both executions failed in their first steps, at the same one and in the same way. -/
structure FailAlike (k : Nat) (x₁ x₂ : Execution)
    (done₁ done₂ : (Engine σ × Except Raised Summary) × World σ) : Prop where
  records : x₁ = x₂
  early : x₁.stepResults.length < k
  raised : ∃ r, done₁.1.2 = .error r ∧ done₂.1.2 = .error r
  worlds : done₁.2 = done₂.2

/--
Both executions passed their first steps with the same results.  At the end of the
executions these show the same, unless later steps changed what their outputs hold.
-/
structure PassAlike (k : Nat) (u : World σ) (x₁ x₂ : Execution) (v₁ v₂ : World σ) : Prop where
  results : x₁.stepResults.take k = x₂.stepResults.take k
  shown : Lasting (x₁.stepResults.take k) u v₁ -> Lasting (x₂.stepResults.take k) u v₂ ->
    (x₁.stepResults.take k).map (StepResult.seen v₁.objects) =
      (x₂.stepResults.take k).map (StepResult.seen v₂.objects)

section Shared

variable {e₁ e₂ : Engine σ} {env : Environment} {name : String}
  {inputs extra : List (Value × Value)} {w v u : World σ} {m₁ m₂ : Definition} {c : Context}
  {x : Execution} {k : Nat} {p : Progress}

/-- Runs that share their first steps, and pass them, pass them alike. -/
theorem passAlike_of_passed (same : e₁.dispatcher = e₂.dispatcher)
    (front : m₁.steps.take k = m₂.steps.take k)
    (h : launch? e₁ env name inputs extra w = some ⟨m₁, c, x, v⟩)
    (passed : advanceAll e₁.dispatcher ⟨c, []⟩ (m₁.steps.take k) v = ((p, none), u))
    (v₁ v₂ : World σ) :
    PassAlike k (worldAfter e₁ env name inputs extra w k)
      (runToEnd e₁.dispatcher m₁ c x v).1.1 (runToEnd e₂.dispatcher m₂ c x v).1.1 v₁ v₂ := by
  have results (m : Definition) (hm : m.steps.take k = m₁.steps.take k) :
      (runToEnd e₁.dispatcher m c x v).1.1.stepResults.take k = p.results := by
    rw [runToEnd_results]
    rw [← hm] at passed
    simpa using take_advanceAll passed
  have first₁ := results m₁ rfl
  have first₂ := results m₂ front.symm
  have after : worldAfter e₁ env name inputs extra w k = u := by
    simp only [worldAfter, h, passed]
  rw [same] at first₂
  refine ⟨by rw [first₁, first₂], fun lasts₁ lasts₂ => ?_⟩
  rw [first₁, after] at lasts₁
  rw [first₂, after] at lasts₂
  rw [first₁, first₂, (map_seen_iff p.results u v₁).2 lasts₁,
    (map_seen_iff p.results u v₂).2 lasts₂]

/-- Runs that share their first steps, and are stopped in them, fail alike. -/
theorem failAlike_of_stopped (same : e₁.dispatcher = e₂.dispatcher)
    (front : m₁.steps.take k = m₂.steps.take k)
    (h₁ : launch? e₁ env name inputs extra w = some ⟨m₁, c, x, v⟩)
    (h₂ : launch? e₂ env name inputs extra w = some ⟨m₂, c, x, v⟩) {s : Stop}
    (stopped : advanceAll e₁.dispatcher ⟨c, []⟩ (m₁.steps.take k) v = ((p, some s), u)) :
    FailAlike k (runToEnd e₁.dispatcher m₁ c x v).1.1 (runToEnd e₂.dispatcher m₂ c x v).1.1
      (execute e₁ env name inputs extra w) (execute e₂ env name inputs extra w) := by
  have stop₁ := advanceAll_of_stop stopped
  rw [front] at stopped
  have stop₂ := advanceAll_of_stop stopped
  have runs := runToEnd_congr (x := x) stop₁ stop₂
  obtain ⟨_, result₁, world₁, _⟩ := execute_of_launch h₁
  obtain ⟨_, result₂, world₂, _⟩ := execute_of_launch h₂
  obtain ⟨r, raised⟩ := runToEnd_stopped (x := x) stop₁
  obtain ⟨n, step, count, found, _⟩ := advanceAll_stopped stopped
  have short : n < k := by
    have bound := (List.getElem?_eq_some_iff.mp found).choose
    rw [List.length_take] at bound
    omega
  refine ⟨by rw [← same, runs], ?_, ⟨r, ?_, ?_⟩, ?_⟩
  · rw [runToEnd_results, stop₁]
    simpa [count] using short
  · rw [result₁, raised]
    rfl
  · rw [result₂, ← same, ← runs, raised]
    rfl
  · rw [world₁, world₂, ← same, runs]

end Shared

/--
Definitions that agree up to a step are executed alike up to it.  The first dispatches
receive the same steps, configurations and contexts.  Every one sees exactly the endings
of the steps before it, and both executions are refused, fail, or pass their first steps
alike.
-/
theorem execute_causal {e₁ e₂ : Engine σ} (settings : e₁.settings = e₂.settings)
    (registry : e₁.registry = e₂.registry) {name : String} {d₁ d₂ : Definition} {k : Nat}
    (h₁ : e₁.store.get? name = some d₁) (h₂ : e₂.store.get? name = some d₂)
    (agree : AgreeUpTo k d₁ d₂) (env : Environment) (inputs extra : List (Value × Value))
    (w : World σ) :
    let done₁ := execute e₁ env name inputs extra w
    let done₂ := execute e₂ env name inputs extra w
    ((dispatches e₁ env name inputs extra w).take k).map Visit.received =
      ((dispatches e₂ env name inputs extra w).take k).map Visit.received ∧
    worldAfter e₁ env name inputs extra w k = worldAfter e₂ env name inputs extra w k ∧
    ((∃ problem, done₁.1.2 = .error problem ∧ done₂.1.2 = .error problem ∧
        dispatches e₁ env name inputs extra w = [] ∧ dispatches e₂ env name inputs extra w = []) ∨
      ∃ x₁ x₂ : Execution,
        done₁.1.1.ledger.get? w.fresh.issue.1 = some x₁ ∧
        done₂.1.1.ledger.get? w.fresh.issue.1 = some x₂ ∧
        (∀ i v, (dispatches e₁ env name inputs extra w)[i]? = some v ->
          d₁.steps[i]? = some v.step ∧ v.progress.results = x₁.stepResults.take i ∧
          v.progress.context.endings = (x₁.stepResults.take i).map StepResult.ending) ∧
        (FailAlike k x₁ x₂ done₁ done₂ ∨
          PassAlike k (worldAfter e₁ env name inputs extra w k) x₁ x₂ done₁.2 done₂.2)) := by
  intro done₁ done₂
  have same : e₁.dispatcher = e₂.dispatcher := by simp only [dispatcher, settings, registry]
  obtain ⟨visits, worlds⟩ := take_dispatches settings registry h₁ h₂ agree env inputs extra w
  refine ⟨by rw [visits], worlds, ?_⟩
  rcases launch?_agree h₁ h₂ agree env inputs extra w with
    ⟨none₁, none₂, problem, error₁, error₂⟩ | ⟨m₁, m₂, c, x, v, some₁, some₂, steps₁, steps₂⟩
  · have empty₁ : dispatches e₁ env name inputs extra w = [] := by simp only [dispatches, none₁]
    have empty₂ : dispatches e₂ env name inputs extra w = [] := by simp only [dispatches, none₂]
    exact .inl ⟨problem, error₁, error₂, empty₁, empty₂⟩
  · have front : m₁.steps.take k = m₂.steps.take k := by rw [steps₁, steps₂, agree.steps]
    obtain ⟨kept₁, _, _, id₁, _⟩ := execute_of_launch some₁
    obtain ⟨kept₂, _, _, id₂, _⟩ := execute_of_launch some₂
    rw [id₁] at kept₁
    rw [id₂] at kept₂
    refine .inr ⟨_, _, kept₁, kept₂, fun i u hu => ?_, ?_⟩
    · rw [← steps₁]
      exact dispatches_see some₁ kept₁ hu
    · rcases ha : advanceAll e₁.dispatcher ⟨c, []⟩ (m₁.steps.take k) v with ⟨⟨p, _ | s⟩, u⟩
      · exact .inr (passAlike_of_passed same front some₁ ha _ _)
      · exact .inl (failAlike_of_stopped same front some₁ some₂ ha)

/-- An engine with a definition of some steps of the types that are built in. -/
def withSteps (steps : List Step) : Engine Unit :=
  ⟨.standard, [("w", ⟨"w", none, none, [], none, .null, steps, none, none⟩)], ⟨none, []⟩,
    Registry.empty.withBuiltins, false⟩

/-- A step that gives a list with one number. -/
def listStep : Step :=
  { Step.plain "a" "output" with config := .list [.int 1] }

/-- A step that appends a number to the list. -/
def appendStep : Step :=
  { Step.plain "b" "transform" with
    config := .dict [(.str "expression", .str "steps.a.output.append(2)")] }

/-- The numbers that the first result of an execution shows when it has ended. -/
def numbersShown (e : Engine Unit) : List Int :=
  let done := execute e [] "w" [] [] dawn
  let first := (done.1.1.ledger.get? dawn.fresh.issue.1).bind fun x => x.stepResults.head?
  match first.map fun r : StepResult => (r.seen done.2.objects).output.bare with
  | some (.list items) => items.filterMap fun
      | .int n => some n
      | _ => none
  | _ => []

theorem execute_causal_append :
    ((dispatches (withSteps [listStep]) [] "w" [] [] dawn).take 1).map Visit.received =
      ((dispatches (withSteps [listStep, appendStep]) [] "w" [] [] dawn).take 1).map
        Visit.received := by
  have settings : (withSteps [listStep]).settings = (withSteps [listStep, appendStep]).settings :=
    rfl
  have registry : (withSteps [listStep]).registry = (withSteps [listStep, appendStep]).registry :=
    rfl
  have stored (steps : List Step) : (withSteps steps).store.get? "w" =
      some ⟨"w", none, none, [], none, .null, steps, none, none⟩ :=
    rfl
  exact (execute_causal settings registry (stored _) (stored _) ⟨rfl, rfl, rfl⟩ [] [] [] dawn).1

/-- What a later step appends, the earlier result shows: its output does not last. -/
theorem numbersShown_append :
    numbersShown (withSteps [listStep]) = [1] ∧
      numbersShown (withSteps [listStep, appendStep]) = [1, 2] :=
  ⟨by decide +kernel, by decide +kernel⟩

end Engine

end Workflow
