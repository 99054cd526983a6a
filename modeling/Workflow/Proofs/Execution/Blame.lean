import Workflow.Proofs.Definition.Named
import Workflow.Proofs.Execution.Stopping

/-!
# The step that an execution failed at

An error that a step of an execution raises names the innermost step that failed: the one
whose executor or condition raised something, whose timeout ran out, or whose type has no
executor.  The number of attempts that it carries is not that step's, though.  Every step
around it writes its own over it, so the number is right exactly when the step of the
execution may be attempted as often as the step that failed.
-/

namespace Workflow

namespace Dispatcher

variable {σ : Type} {d : Dispatcher σ} {c : Context} {a b t : Turn σ}

theorem Opens.tree_subset (h : Opens d c a b) : b.step.tree ⊆ a.step.tree := by
  cases h with
  | @intro step sub _ _ _ _ _ _ _ _ _ chosen front back _ _ _ _ _ branch _ =>
      intro s below
      have inside : s ∈ Step.branchTree (step.branch chosen) := by
        rw [branch]
        exact Step.mem_listTree (List.mem_append_right _ List.mem_cons_self) below
      cases chosen with
      | true => exact Step.mem_tree.mpr (.inr (.inl inside))
      | false => exact Step.mem_tree.mpr (.inr (.inr inside))

/-- What the dispatch of a step reaches is a step of its branches, at some depth. -/
theorem Reaches.mem_tree (h : Reaches d c a b) : b.step ∈ a.step.tree := by
  induction h using Relation.ReflTransGen.head_induction_on with
  | refl => exact Step.mem_tree_self _
  | head opens _ ih => exact opens.tree_subset ih

end Dispatcher

namespace Engine

open Dispatcher (Accuses Descends FailsItself Reaches Slips Strays invocations took took_accuses
  took_fault_iff)

variable {σ : Type}

/-- The steps of an execution are those of the definition that is stored. -/
theorem step_mem_of_dispatch {e : Engine σ} {env : Environment} {name : String}
    {inputs extra : List (Value × Value)} {w : World σ} {definition : Definition}
    (stored : e.store.get? name = some definition) {visit : Visit σ}
    (visited : visit ∈ dispatches e env name inputs extra w) : visit.step ∈ definition.steps := by
  cases hl : launch? e env name inputs extra w with
  | none => simp [dispatches, hl] at visited
  | some l =>
      obtain ⟨m, found, steps⟩ := launch?_steps hl
      rw [stored] at found
      cases found
      simp only [dispatches, hl] at visited
      obtain ⟨i, here⟩ := List.mem_iff_getElem?.mp visited
      rw [← steps]
      exact List.mem_of_getElem? (visit_results here).1

/-- The turn of a step of an execution. -/
def Visit.turn (visit : Visit σ) : Turn σ :=
  ⟨visit.step, [], visit.world⟩

/-- An error that names a step with an id is told as the error of that step. -/
theorem noteOf_of_names {id : String} {place : Option String} {e : Error} {step : Step}
    (names : e.Names step) (named : step.id ≠ "") :
    noteOf id ⟨place, .error e⟩ =
      (⟨e.content, .str step.id, e.kind.name⟩,
        .error { e with executionId := .str id, stepId := .str step.id }) := by
  have known : (Value.str step.id).truthy = true := by
    simpa [Value.truthy] using named
  simp only [noteOf, names.id, known, if_true]

/-- What the dispatch of a step of an execution reaches has an id where all steps have one. -/
theorem id_of_reaches {e : Engine σ} {env : Environment} {name : String}
    {inputs extra : List (Value × Value)} {w : World σ} {definition : Definition}
    (stored : e.store.get? name = some definition) (named : definition.Named) {visit : Visit σ}
    (visited : visit ∈ dispatches e env name inputs extra w) {t : Turn σ}
    (reached : Reaches e.dispatcher visit.progress.context visit.turn t) : t.step.id ≠ "" :=
  named _ (Step.mem_listTree (step_mem_of_dispatch stored visited) reached.mem_tree)

section Blame

variable {e : Engine σ} {env : Environment} {name : String} {inputs extra : List (Value × Value)}
  {w v : World σ} {visit : Visit σ} {definition : Definition}

end Blame

/-- What an executor raises. -/
def boom : Fault :=
  .other "RuntimeError" "boom"

/-- An executor that fails. -/
def failing : Plugin Unit :=
  .ofFunction "fail" fun _ _ _ s => (.raised (.fault boom), s)

/-- An engine with a step that runs another one, and with the executor that fails. -/
def failingWithin (sub : Step) : Engine Unit :=
  { withSteps [nested "outer" .stop none [sub]] with
    registry := ⟨("fail", .plugin failing) :: Registry.empty.withBuiltins.handlers, false⟩ }

/-- The definition that the engine stores. -/
def within (sub : Step) : Definition :=
  ⟨"w", none, none, [], none, .null, [nested "outer" .stop none [sub]], none, none⟩

theorem stored_failingWithin (sub : Step) :
    (failingWithin sub).store.get? "w" = some (within sub) := rfl

theorem named_within {sub : Step} (named : sub.id ≠ "") (leaf : sub.tree = [sub]) :
    (within sub).Named := by
  have tree : (within sub).everyStep = [nested "outer" .stop none [sub], sub] := by
    simp [within, Definition.everyStep, nested, Step.plain, Step.listTree, Step.tree,
      Step.branchTree, leaf]
  intro step inside
  rw [tree] at inside
  rcases List.mem_cons.mp inside with rfl | rest
  · exact (by decide : "outer" ≠ "")
  · rw [List.mem_singleton.mp rest]
    exact named

theorem untold_failingWithin (sub : Step) : (failingWithin sub).registry.Untold := by
  intro type p handled step config c s e s' ended
  have found := Table.mem_of_get? handled
  have table : (failingWithin sub).registry.handlers = [("fail", .plugin failing),
      ("transform", .builtin .transform), ("output", .builtin .output),
      ("template", .builtin .template), ("conditional", .conditional)] := rfl
  rw [table] at found
  obtain ⟨-, rfl⟩ : type = "fail" ∧ p = failing := by simpa using found
  cases ended

/-- A step without configuration has one to be invoked with. -/
theorem configOf_plain {σ : Type} (c : Context) (step : Step) (plain : step.config = .null)
    (w : World σ) : ∃ v u, Dispatcher.configOf c step w = .ok v u := by
  rw [Dispatcher.configOf, plain]
  exact ⟨_, _, rfl⟩

section Attempts

variable {e : Engine σ} {env : Environment} {name : String} {inputs extra : List (Value × Value)}
  {w : World σ} {definition : Definition}

/-! ## Attempts -/

/-- An input that does not fit is no failure of an executor. -/
theorem executor?_of_checkInputs {given : List (Value × Value)} {declared : List (String × Input)}
    {err : Error} (h : checkInputs given declared = .error err) : err.kind.executor? = none := by
  induction declared generalizing given with
  | nil => cases h
  | cons entry rest ih =>
      obtain ⟨n, i⟩ := entry
      simp only [checkInputs, bind, Except.bind] at h
      cases hc : checkInput given n i with
      | ok more =>
          simp only [hc] at h
          exact ih h
      | error problem =>
          simp only [hc] at h
          cases h
          unfold checkInput at hc
          split at hc <;> split at hc <;> cases hc <;> rfl

/-- An execution that does not start raises no failure of an executor. -/
theorem launch?_of_executor {err : Error} {f : ExecutorFailure}
    (raised : (execute e env name inputs extra w).1.2 = .error (.error err))
    (carried : err.kind.executor? = some f) : ∃ l, launch? e env name inputs extra w = some l := by
  unfold execute prepare at raised
  unfold launch? prepare
  cases hs : e.store.get? name with
  | none =>
      simp only [hs] at raised
      cases raised
      cases carried
  | some definition =>
      simp only [hs] at raised ⊢
      cases hc : checkInputs inputs (adoptDefaults w.objects definition.inputs).1 with
      | error problem =>
          simp only [hc, Except.map] at raised
          cases raised
          rw [executor?_of_checkInputs hc] at carried
          cases carried
      | ok given => exact ⟨_, rfl⟩

/-- A failure of an executor that an execution raises was raised by the dispatch of a step. -/
theorem visit_of_executor {err : Error} {f : ExecutorFailure}
    (raised : (execute e env name inputs extra w).1.2 = .error (.error err))
    (carried : err.kind.executor? = some f) :
    ∃ visit ∈ dispatches e env name inputs extra w, ∃ err' v,
      e.dispatcher.dispatch visit.progress.context visit.step visit.world = .error (.error err') v ∧
        (.error err) = (noteOf w.fresh.issue.1 ⟨some visit.step.id, .error err'⟩).2 := by
  obtain ⟨l, launched⟩ := launch?_of_executor raised carried
  obtain ⟨s, halts, same⟩ := halts_of_execute launched raised
  simp only [dispatches, launched]
  cases halts with
  | @step visit r v visited failed =>
      cases r with
      | cancelled => cases same
      | fault g => cases same
      | error err' =>
          rcases advance_error failed with inner | ⟨_, _, _, _, _, twice, _, uncarried⟩
          · exact ⟨visit, visited, err', v, inner, same⟩
          · cases twice
            cases same
            rw [uncarried] at carried
            cases carried
  | outputs failed =>
      obtain ⟨g, rfl⟩ := failed.fault
      cases same

/--
A failure of an executor that an execution raises names a step that failed, with as many
invocations as its policy allows.  But the attempts that it carries are the invocations
of the step of the execution: those of the step that it names exactly when both steps
may be attempted equally often.
-/
theorem execute_attempts (stored : e.store.get? name = some definition) (named : definition.Named)
    (untold : e.registry.Untold) {err : Error} {f : ExecutorFailure}
    (raised : (execute e env name inputs extra w).1.2 = .error (.error err))
    (carried : err.kind.executor? = some f) :
    ∃ visit ∈ dispatches e env name inputs extra w, ∃ t,
      let c := visit.progress.context
      let count (t : Turn σ) := (invocations e.dispatcher c t).length
      let budget (t : Turn σ) := Attempt.budget e.settings t.step
      Descends e.dispatcher c visit.turn t ∧
        (FailsItself e.dispatcher c t ∨ Strays e.dispatcher c t) ∧ err.Names t.step ∧
        (∃ err' u, took e.dispatcher c t = .error (.error err') u ∧
          err'.kind.executor?.isSome) ∧
        count t = budget t ∧ count visit.turn = budget visit.turn ∧
        f.attempts = .int (count visit.turn) ∧
        (f.attempts = .int (count t) ↔ budget t = budget visit.turn) := by
  obtain ⟨visit, visited, err', v, failed, told⟩ := visit_of_executor raised carried
  have ended : took e.dispatcher visit.progress.context visit.turn = .error (.error err') v := failed
  obtain ⟨t, accuses⟩ := took_accuses untold ended
  have here := id_of_reaches stored named visited accuses.descends.reaches
  rw [noteOf_of_names accuses.names here] at told
  cases told
  obtain ⟨inner, u, innermost, sort⟩ := accuses.ended
  rw [carried] at sort
  obtain ⟨g, carries⟩ := Option.isSome_iff_exists.mp sort
  obtain ⟨outside, number⟩ := Dispatcher.invocations_of_took ended carried
  obtain ⟨inside, -⟩ := Dispatcher.invocations_of_took innermost carries
  have settings : e.dispatcher.settings = e.settings := rfl
  rw [settings] at outside number inside
  refine ⟨visit, visited, t, accuses.descends, accuses.origin, ⟨rfl, accuses.names.type⟩,
    ⟨inner, u, innermost, sort⟩, inside, outside, ?_, ?_⟩
  · simp only [number, outside]
  · simp only [number, inside, Value.int.injEq, Int.natCast_inj, eq_comm]

end Attempts

/-- A step that is tried three times, with delays that grow without end. -/
def patient : Step :=
  { Step.plain "inner" "fail" with onError := .retry, retry := some ⟨3, none, none, 1e400⟩ }

/-- The executor of the step is invoked three times, and then its failure is raised. -/
theorem took_patient (c : Context) (deadlines : List Float) (w : World Unit) :
    ∃ v, took (failingWithin patient).dispatcher c ⟨patient, deadlines, w⟩ =
      .error (.error (Failure.wrap patient 3 boom)) v := by
  obtain ⟨config, u, configured⟩ := configOf_plain c patient rfl w
  have timed (n : Nat) (bound : n < 2) (chance : Float) :
      ∃ x, Backoff.delay Settings.standard chance patient.retry (1 + n) = .ok x := by
    have number : ∃ x, Value.floatOfInt (1 + n - 1) = .ok x := by
      match n, bound with
      | 0, _ => exact ⟨_, rfl⟩
      | 1, _ => exact ⟨_, rfl⟩
    obtain ⟨x, number⟩ := number
    exact Backoff.delay_of_endless (by decide +kernel) (by decide +kernel) number chance
  let invoke := Dispatcher.invocationBy (failingWithin patient).dispatcher c
    ⟨patient, deadlines, w⟩ (.plugin failing) config
  have fails (v : World Unit) : ∃ u, invoke v = .error (.fault boom) u := ⟨_, rfl⟩
  have last : patient.onError ≠ .proceed := nofun
  obtain ⟨v, ended⟩ := Attempt.startingAt_of_failing fails last 3 2 1 timed u
  exact ⟨v, Dispatcher.took_of_run ⟨rfl, configured⟩ ended⟩

/-- The step around it is tried once, and its attempts are what the failure carries. -/
theorem raised_patient :
    ∃ visit ∈ dispatches (failingWithin patient) [] "w" [] [] dawn, ∃ t err f,
      Descends (failingWithin patient).dispatcher visit.progress.context visit.turn t ∧
        t.step = patient ∧
        (∃ err' v, took (failingWithin patient).dispatcher visit.progress.context t =
          .error (.error err') v ∧ err'.kind.executor?.isSome) ∧
        (execute (failingWithin patient) [] "w" [] [] dawn).1.2 = .error (.error err) ∧
        err.stepId = .str "inner" ∧ err.kind.executor? = some f ∧ f.attempts = .int 1 := by
  let outer := nested "outer" .stop none [patient]
  let d := (failingWithin patient).dispatcher
  obtain ⟨p, w, here⟩ : ∃ p w, (⟨outer, p, w⟩ : Visit Unit) ∈
      dispatches (failingWithin patient) [] "w" [] [] dawn := ⟨_, _, List.mem_cons_self⟩
  obtain ⟨config, u, configured⟩ := configOf_plain p.context outer rfl w
  have ready : Dispatcher.Ready d p.context ⟨outer, [], w⟩ .conditional config u := ⟨rfl, configured⟩
  have branch : outer.branch true = some ([] ++ patient :: []) := rfl
  have runs : Dispatcher.Runs d p.context ⟨outer, [], w⟩ u ⟨patient, [], u⟩ :=
    .intro rfl branch rfl
  obtain ⟨v, failed⟩ := took_patient p.context [] u
  obtain ⟨z, ended⟩ := runs.took_of_error ready .first failed rfl rfl nofun
  have stops := stopsAt_of_dispatch here ended
  have blames : Dispatcher.Blames d p.context ⟨outer, [], w⟩ ⟨patient, [], u⟩ :=
    .intro ready .first runs failed (runs.invoke_of_error failed config) (.inl rfl)
  exact ⟨_, here, _, _, _, .single blames, rfl, ⟨_, v, failed, rfl⟩, stops.raised, rfl, rfl, rfl⟩

theorem execute_attempts_patient :
    ∃ visit ∈ dispatches (failingWithin patient) [] "w" [] [] dawn, ∃ t err f,
      (execute (failingWithin patient) [] "w" [] [] dawn).1.2 = .error (.error err) ∧
      err.kind.executor? = some f ∧
      Descends (failingWithin patient).dispatcher visit.progress.context visit.turn t ∧
      err.Names t.step ∧
      (f.attempts = .int (invocations (failingWithin patient).dispatcher
          visit.progress.context t).length ↔
        Attempt.budget Settings.standard t.step = Attempt.budget Settings.standard visit.step) := by
  obtain ⟨-, -, -, err, f, -, -, -, raised, -, carried, -⟩ := raised_patient
  obtain ⟨visit, here, t, descends, -, names, -, -, -, -, equal⟩ :=
    execute_attempts (stored_failingWithin patient) (named_within (by decide) rfl)
      (untold_failingWithin patient) raised carried
  exact ⟨visit, here, t, err, f, raised, carried, descends, names, equal⟩

/-- The failure of a step whose executor was invoked three times says that it was invoked once. -/
theorem execute_attempts_overwritten :
    ∃ visit ∈ dispatches (failingWithin patient) [] "w" [] [] dawn, ∃ t err f,
      Descends (failingWithin patient).dispatcher visit.progress.context visit.turn t ∧
        (failingWithin patient).registry.handlers.get? t.step.type = some (.plugin failing) ∧
        (execute (failingWithin patient) [] "w" [] [] dawn).1.2 = .error (.error err) ∧
        err.stepId = .str t.step.id ∧ err.kind.executor? = some f ∧
        (invocations (failingWithin patient).dispatcher visit.progress.context t).length = 3 ∧
        f.attempts = .int 1 := by
  obtain ⟨visit, here, ⟨step, ds, z⟩, err, f, descends, rfl, ⟨err', v, ended, sort⟩, raised, place,
    carried, one⟩ := raised_patient
  obtain ⟨g, carries⟩ := Option.isSome_iff_exists.mp sort
  obtain ⟨count, -⟩ := Dispatcher.invocations_of_took ended carries
  exact ⟨visit, here, _, err, f, descends, rfl, raised, place, carried, count, one⟩

end Engine

end Workflow
