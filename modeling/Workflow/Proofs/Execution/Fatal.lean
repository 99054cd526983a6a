import Workflow.Proofs.Dispatch.Nesting
import Workflow.Proofs.Execution.Causality

/-!
# Executions that something fatal ends

A cancellation, or a step of a type without executor, ends the execution wherever it is
met.  Every dispatch on the way from the step of the execution down to it ends with the
same, without another attempt, another delay or another step, and the record says what
happened.
-/

namespace Workflow

namespace Engine

open Dispatcher (Opens Reaches took unknownType)

variable {σ : Type}

/-! ## The step at which an execution stops -/

/-- A step that raises something is the last one whose turn comes, and stops the steps. -/
theorem advanceAll_of_visit {d : Dispatcher σ} {p : Progress} {steps : List Step} {w v : World σ}
    {visit : Visit σ} {r : Raised} (visited : visit ∈ visits d p steps w)
    (failed : advance d visit.progress visit.step visit.world = .error r v) :
    advanceAll d p steps w = ((visit.progress, some ⟨some visit.step.id, r⟩), v) ∧
      (visits d p steps w).getLast? = some visit := by
  induction steps generalizing p w with
  | nil => simp [visits] at visited
  | cons step rest ih =>
      cases ha : advance d p step w with
      | ok q u =>
          rw [visits_cons_ok _ ha] at visited ⊢
          rw [advanceAll_cons_ok _ ha]
          rcases List.mem_cons.mp visited with rfl | later
          · rw [ha] at failed
            cases failed
          · obtain ⟨stopped, last⟩ := ih later
            exact ⟨stopped, by rw [List.getLast?_cons, last]; rfl⟩
      | error r' u =>
          rw [visits_cons_error _ ha] at visited ⊢
          rw [advanceAll_cons_error _ ha]
          obtain rfl := List.mem_singleton.mp visited
          rw [ha] at failed
          cases failed
          exact ⟨rfl, rfl⟩

/-- No deadline has run out when the turn of a step of an execution comes. -/
theorem visit_calm {d : Dispatcher σ} {p : Progress} {steps : List Step} {w : World σ}
    {visit : Visit σ} (visited : visit ∈ visits d p steps w) (calm : w.expired = none) :
    visit.world.expired = none := by
  induction steps generalizing p w with
  | nil => simp [visits] at visited
  | cons step rest ih =>
      cases ha : advance d p step w with
      | ok q u =>
          rw [visits_cons_ok _ ha] at visited
          rcases List.mem_cons.mp visited with rfl | later
          · exact calm
          · exact ih later ((timely_advance d p step).ok calm ha)
      | error r u =>
          rw [visits_cons_error _ ha] at visited
          obtain rfl := List.mem_singleton.mp visited
          exact calm

theorem advance_of_dispatch_error {d : Dispatcher σ} {p : Progress} {step : Step} {w v : World σ}
    {r : Raised} (failed : d.dispatch p.context step w = .error r v) :
    advance d p step w = .error r v := by
  simp only [advance, bind, EStateM.bind, failed]

theorem launch?_calm {e : Engine σ} {env : Environment} {name : String}
    {inputs extra : List (Value × Value)} {w : World σ} {l : Launch σ}
    (h : launch? e env name inputs extra w = some l) : l.world.expired = w.expired := by
  unfold launch? prepare at h
  cases hs : e.store.get? name with
  | none => simp only [hs] at h; cases h
  | some definition =>
      simp only [hs] at h
      cases hc : checkInputs inputs (adoptDefaults w.objects definition.inputs).1 with
      | error problem => simp only [hc, Except.map] at h; cases h
      | ok given =>
          simp only [hc, Except.map] at h
          cases h
          rfl

/-! ## What the execution comes to -/

/-- How an execution ends at one of its steps, given what the record notes and what is raised. -/
structure StopsAt (e : Engine σ) (env : Environment) (name : String)
    (inputs extra : List (Value × Value)) (w : World σ) (visit : Visit σ) (v : World σ)
    (note : FailureNote) (raised : Raised) : Prop where
  /-- No step after it is dispatched. -/
  last : (dispatches e env name inputs extra w).getLast? = some visit
  record : ∃ x : Execution,
    (execute e env name inputs extra w).1.1.ledger.get? w.fresh.issue.1 = some x ∧
      x.status = .failed ∧ x.failure = some note ∧ x.stepResults = visit.progress.results
  raised : (execute e env name inputs extra w).1.2 = .error raised
  /-- Nothing happens any more but that the failure is logged. -/
  world : ∃ message, (execute e env name inputs extra w).2 = v.logged .error message

section Stop

variable {e : Engine σ} {env : Environment} {name : String} {inputs extra : List (Value × Value)}
  {w v : World σ} {visit : Visit σ} {r : Raised}

/-- An execution stops at the step whose dispatch raises something. -/
theorem stopsAt_of_dispatch (visited : visit ∈ dispatches e env name inputs extra w)
    (failed : e.dispatcher.dispatch visit.progress.context visit.step visit.world = .error r v) :
    let told := noteOf w.fresh.issue.1 ⟨some visit.step.id, r⟩
    StopsAt e env name inputs extra w visit v told.1 told.2 := by
  cases hl : launch? e env name inputs extra w with
  | none => simp [dispatches, hl] at visited
  | some l =>
      obtain ⟨kept, result, world, id, _⟩ := execute_of_launch hl
      simp only [dispatches, hl] at visited
      obtain ⟨stopped, last⟩ := advanceAll_of_visit visited (advance_of_dispatch_error failed)
      rw [id] at kept
      simp only [runToEnd, stopped, id] at kept result world
      exact ⟨by simpa only [dispatches, hl] using last, ⟨_, kept, rfl, rfl, rfl⟩, result, _, world⟩

theorem dispatches_calm (calm : w.expired = none)
    (visited : visit ∈ dispatches e env name inputs extra w) : visit.world.expired = none := by
  cases hl : launch? e env name inputs extra w with
  | none => simp [dispatches, hl] at visited
  | some l =>
      simp only [dispatches, hl] at visited
      exact visit_calm visited ((launch?_calm hl).trans calm)

/--
What is fatal passes every step above it, whatever the policies, attempts and timeouts of
these are.  Each dispatch from the step of the execution down to the one that met it ends
with the same thing raised, in the same world: there is no delay, no other attempt and no
other step.  The record of the execution fails with the id of the step without executor,
or with the id of the step of the execution when it was cancelled.
-/
theorem execute_fatal (calm : w.expired = none)
    (visited : visit ∈ dispatches e env name inputs extra w) {t : Turn σ}
    (reached : Reaches e.dispatcher visit.progress.context ⟨visit.step, [], visit.world⟩ t) :
    let ended := took e.dispatcher visit.progress.context
    let Enclosing (b : Turn σ) :=
      Reaches e.dispatcher visit.progress.context ⟨visit.step, [], visit.world⟩ b ∧
        Reaches e.dispatcher visit.progress.context b t
    (e.registry.handlers.get? t.step.type = none -> t.step.id ≠ "" ->
      (∀ b, Enclosing b -> ended b = .error (.error (unknownType t.step)) t.world) ∧
      StopsAt e env name inputs extra w visit t.world
        ⟨.str s!"Unknown step type: {t.step.type}", .str t.step.id, "UnknownStepTypeError"⟩
        (.error { unknownType t.step with executionId := .str w.fresh.issue.1 })) ∧
    (∀ v, ended t = .error .cancelled v -> v.expired = none ->
      (∀ b, Enclosing b -> ended b = .error .cancelled v) ∧
      StopsAt e env name inputs extra w visit v
        ⟨.str "Execution cancelled", .str visit.step.id, "CancelledError"⟩ .cancelled) := by
  intro ended Enclosing
  have ready : t.world.expired = none := reached.calm (dispatches_calm calm visited)
  constructor
  · intro unknown named
    have lost : ended t = .error (.error (unknownType t.step)) t.world :=
      Dispatcher.took_of_unknown unknown
    have fatal : (Raised.error (unknownType t.step)).IsFatal := rfl
    refine ⟨fun b enclosing => enclosing.2.took_of_fatal lost fatal ready, ?_⟩
    have stops := stopsAt_of_dispatch visited (reached.took_of_fatal lost fatal ready)
    have own : (unknownType t.step).stepId.truthy = true := by
      simpa [unknownType, Error.unknownStepType, Value.truthy] using named
    simp only [noteOf, own, if_true] at stops
    exact stops
  · intro v cancelled cut
    have fatal : Raised.cancelled.IsFatal := trivial
    refine ⟨fun b enclosing => enclosing.2.took_of_fatal cancelled fatal cut, ?_⟩
    exact stopsAt_of_dispatch visited (reached.took_of_fatal cancelled fatal cut)

end Stop

/-- A step that runs some steps, under a policy of its own. -/
def nested (id : String) (policy : ErrorPolicy) (timeout : Option Float) (steps : List Step) : Step :=
  { Step.plain id Step.conditionalType with
    onError := policy, timeout, condition := .bool true, ifTrue := some steps }

/-- A step that repeats a step of a type, with another one behind it. -/
def inner (type : String) : Step :=
  nested "inner" .retry none [.plain "deep" type, .plain "later" "output"]

/-- A step of a type, under two policies that would absorb or repeat a failure of it. -/
def outer (type : String) : Step :=
  nested "outer" .proceed (some 5.0) [.plain "first" "output", inner type]

/-- An executor that is cancelled. -/
def halt : Plugin Unit :=
  .ofFunction "halt" fun _ _ _ s => (.raised .cancelled, s)

/-- An engine with the step, and with the executor that is cancelled. -/
def haltable (type : String) : Engine Unit :=
  { withSteps [outer type, .plain "last" "output"] with
    registry := ⟨("halt", .plugin halt) :: Registry.empty.withBuiltins.handlers, false⟩ }

/-- The deepest step is reached from the outermost one. -/
theorem reaches_deep (type : String) (c : Context) (w : World Unit) :
    ∃ t : Turn Unit, t.step = .plain "deep" type ∧
      Reaches (haltable type).dispatcher c ⟨outer type, [], w⟩ t := by
  have outside : (outer type).branch true =
      some ([.plain "first" "output"] ++ inner type :: []) := rfl
  have inside : (inner type).branch true =
      some ([] ++ .plain "deep" type :: [.plain "later" "output"]) := rfl
  have configured (step : Step) (plain : step.config = .null) (w : World Unit) :
      ∃ v u, Dispatcher.configOf c step w = .ok v u := by
    rw [Dispatcher.configOf, plain]
    exact ⟨_, _, rfl⟩
  have first (ds : List Float) (w : World Unit) : ∃ outputs z, Dispatcher.dispatchAll
      (haltable type).dispatcher c ds [.plain "first" "output"] w = .ok outputs z := ⟨_, _, rfl⟩
  obtain ⟨_, u, out⟩ := configured (outer type) rfl w
  obtain ⟨_, z, passed⟩ := first (Deadline.opened (outer type) [] u) u
  obtain ⟨_, v, within⟩ := configured (inner type) rfl z
  exact ⟨_, rfl, .head (.intro rfl out .first rfl outside passed)
    (.head (.intro rfl within .first rfl inside rfl) .refl)⟩

theorem execute_fatal_deep :
    (∃ x : Execution, (execute (haltable "lost") [] "w" [] [] dawn).1.1.ledger.get?
        dawn.fresh.issue.1 = some x ∧
      x.failure = some ⟨.str "Unknown step type: lost", .str "deep", "UnknownStepTypeError"⟩) ∧
    ∃ x : Execution, (execute (haltable "halt") [] "w" [] [] dawn).1.1.ledger.get?
        dawn.fresh.issue.1 = some x ∧
      x.failure = some ⟨.str "Execution cancelled", .str "outer", "CancelledError"⟩ := by
  have calm : dawn.expired = none := rfl
  have visited (type : String) : ∃ p w,
      (⟨outer type, p, w⟩ : Visit Unit) ∈ dispatches (haltable type) [] "w" [] [] dawn :=
    ⟨_, _, List.mem_cons_self⟩
  constructor
  · obtain ⟨p, w, here⟩ := visited "lost"
    obtain ⟨⟨_, ds, v⟩, rfl, reached⟩ := reaches_deep "lost" p.context w
    have unknown : (haltable "lost").registry.handlers.get? "lost" = none := rfl
    have named : (Step.plain "deep" "lost").id ≠ "" := by decide
    obtain ⟨x, kept, _, noted, _⟩ := ((execute_fatal calm here reached).1 unknown named).2.record
    exact ⟨x, kept, noted⟩
  · obtain ⟨p, w, here⟩ := visited "halt"
    obtain ⟨⟨_, ds, v⟩, rfl, reached⟩ := reaches_deep "halt" p.context w
    have ended : ∃ u, took (haltable "halt").dispatcher p.context ⟨.plain "deep" "halt", ds, v⟩ =
        .error .cancelled u ∧ u.expired = v.expired := ⟨_, rfl, rfl⟩
    obtain ⟨u, ended, same⟩ := ended
    have cut : u.expired = none := same.trans (reached.calm (dispatches_calm calm here))
    obtain ⟨x, kept, _, noted, _⟩ := ((execute_fatal calm here reached).2 u ended cut).2.record
    exact ⟨x, kept, noted⟩

end Engine

end Workflow
