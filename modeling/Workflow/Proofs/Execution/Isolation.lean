import Workflow.Proofs.Dispatch.Added
import Workflow.Proofs.Execution.Interference
import Workflow.Proofs.Expr.Added

/-!
# What a caller adds stays apart

A caller may add values to the context of an execution under names of its own.  They are
part of the scope of tokens only, where the names of the engine win over them, and no
part of the scopes of expressions and conditions.  So where all tokens begin with names of
the engine, they make no difference to an execution.
-/

namespace Workflow

open Effect
open Workflow.Expr (AgreeOn)
open Reference (Within unresolved boundPaths)

variable {σ : Type} {n : Nat}

/-! ## Scopes that agree -/

namespace Expr.AgreeOn

variable {P : String -> Prop} {s t : List (Value × Value)}

/-- What is put over two scopes is read in both. -/
theorem overlay (agree : AgreeOn P s t) (added : List (String × Value)) :
    AgreeOn (fun name => P name ∨ name ∈ added.map Prod.fst) (Context.overlay s added)
      (Context.overlay t added) := by
  unfold Context.overlay
  induction added generalizing P s t with
  | nil => exact fun name hname => agree name (by simpa using hname)
  | cons entry rest ih =>
      obtain ⟨own, v⟩ := entry
      -- the name that is put first is one that the scopes agree on from then on
      have put : AgreeOn (fun name => P name ∨ name = own) (Value.putField s own v)
          (Value.putField t own v) := by
        intro name hname
        by_cases same : own = name
        · rw [← same, Value.field?_putField_self, Value.field?_putField_self]
        · rw [Value.field?_putField_of_ne _ _ same, Value.field?_putField_of_ne _ _ same]
          exact agree name (hname.resolve_right (Ne.symm same))
      refine fun name hname => ih put name ?_
      simpa only [List.map_cons, List.mem_cons, or_assoc] using hname

end Expr.AgreeOn

/-- What leaves texts alone, and makes none, leaves the names of entries alone. -/
theorem Value.field?_map {go : Value -> Value}
    (text : ∀ v name, go v = .str name ↔ v = .str name) (entries : List (Value × Value))
    (name : String) : Value.field? (entries.map fun (k, w) => (go k, go w)) name =
      (Value.field? entries name).map go := by
  induction entries with
  | nil => rfl
  | cons e rest ih =>
      obtain ⟨k, v⟩ := e
      rw [List.map_cons]
      rcases field?_cons k v rest name with ⟨rfl, -⟩ | ⟨hk, here⟩
      · have kept : go (.str name) = .str name := (text _ name).mpr rfl
        simp only [kept, Value.field?, if_true, Option.map_some]
      · have other : go k ≠ .str name := fun h => hk ((text k name).mp h)
        rcases field?_cons (go k) (go v) (rest.map fun (k, w) => (go k, go w)) name with
          ⟨same, -⟩ | ⟨-, there⟩
        · exact absurd same other
        · rw [here, there, ih]

/-- Scopes that agree do so with what their values hold by now. -/
theorem Expr.AgreeOn.refresh {P : String -> Prop} {s t : List (Value × Value)}
    (agree : AgreeOn P s t) (o : Objects) :
    ∃ s' t', o.refresh (.dict s) = .dict s' ∧ o.refresh (.dict t) = .dict t' ∧ AgreeOn P s' t' := by
  unfold Objects.refresh
  split
  · exact ⟨s, t, rfl, rfl, agree⟩
  · refine ⟨_, _, rfl, rfl, fun name hname => ?_⟩
    rw [Value.field?_map (o.refreshWithin_text _ []), Value.field?_map (o.refreshWithin_text _ []),
      agree name hname]

namespace Context

/-- The names in the scope of tokens that the engine gives values to. -/
def engineNames : List String :=
  ["workflow", "inputs", "steps", "env"]

/-- The context with other values that a caller added. -/
def beside (c : Context) (extra : List (Value × Value)) : Context :=
  { c with extra }

variable (c : Context) (extra : List (Value × Value))

/-- What a caller adds is not seen under the names of the engine. -/
theorem scope_beside : AgreeOn (· ∈ engineNames) c.scope (c.beside extra).scope := by
  have nowhere : AgreeOn (fun _ => False) c.extra extra := fun _ => False.elim
  exact fun name hname => nowhere.overlay _ name (.inr hname)

theorem dataScope_beside : (c.beside extra).dataScope = c.dataScope :=
  rfl

theorem conditionScope_beside : (c.beside extra).conditionScope = c.conditionScope :=
  rfl

theorem current_beside (o : Objects) :
    (c.beside extra).current (o.withAdded n) =
      (c.current o).beside (extra.map fun (name, v) => (name, o.refresh v)) := by
  simp only [current, beside, Objects.refresh_withAdded]

/-- What is resolved in the scope of a context reads nothing of what a caller added. -/
theorem unadded_inScope {α : Type} {m : Value -> Reference.Resolving α} {k : α -> Run σ Value}
    (same : ∀ {s t}, AgreeOn (· ∈ engineNames) s t -> m (.dict s) = m (.dict t))
    (hk : ∀ a, Run.Unadded n (k a) (k a)) :
    Run.Unadded n
      (do
        let scope <- Run.current (.dict c.scope)
        k (<- Run.resolving (m scope)))
      (do
        let scope <- Run.current (.dict (c.beside extra).scope)
        k (<- Run.resolving (m scope))) := by
  intro w
  obtain ⟨s, t, hs, ht, agree⟩ := (c.scope_beside extra).refresh w.objects
  have unfolded (scope : Value) (w : World σ) :
      (do
        let scope <- Run.current scope
        k (<- Run.resolving (m scope)) : Run σ Value) w =
        (Run.resolving (m (w.objects.refresh scope)) >>= k) w := rfl
  have there : (w.withAdded n).objects.refresh (.dict (c.beside extra).scope) =
      w.objects.refresh (.dict (c.beside extra).scope) := Objects.refresh_withAdded _ _ _
  rw [unfolded, unfolded, there, hs, ht, same agree]
  exact ((Run.unadded_resolving _).bind hk) w

end Context

/-! ## Conditions and built-in steps -/

namespace Condition

theorem unadded_decideBound (text : String) (scope : List (Value × Value)) (b : Reference.Bound) :
    Run.Unadded n (decideBound text scope b : Run σ Bool) (decideBound text scope b) := by
  unfold decideBound
  split
  · refine (Run.unadded_tried ((Expression.unadded_evaluate _ _).map _)).bind fun r => ?_
    cases r with
    | ok answer => exact blind_pure answer
    | error e =>
        dsimp only
        split
        · exact (Run.unadded_log _ _).bind fun _ => blind_pure _
        · exact blind_throw _
  · exact (Run.unadded_log _ _).bind fun _ => blind_pure _

/-- A condition whose tokens begin with names of the engine is decided the same. -/
theorem unadded_decide (c : Context) (extra : List (Value × Value)) {condition : Value}
    (h : ∀ text, condition = .str text -> Within (· ∈ Context.engineNames) (boundPaths text)) :
    Run.Unadded n (decide c condition : Run σ Bool) (decide (c.beside extra) condition) := by
  cases condition with
  | str text =>
      simp only [decide]
      split
      · exact blind_throw _
      · refine mirrors_get fun w => ?_
        have current := c.current_beside extra (n := n) w.objects
        have bound (reserved : List String) :=
          Reference.bind_agree ((c.current w.objects).scope_beside
            (extra.map fun (name, v) => (name, w.objects.refresh v))) reserved (h text rfl)
        simp only [World.withAdded, current, Context.conditionScope_beside, ← bound]
        exact (Run.unadded_resolving _).bind fun b => unadded_decideBound text _ b
  | null => exact blind_throw _
  | _ => exact blind_pure _

end Condition

/-- An expression is evaluated in a scope that has nothing of what a caller added. -/
theorem Builtin.unadded_runTransform (step : Step) (config : Value) (c : Context)
    (extra : List (Value × Value)) :
    Mirrors (Objects.withAdded n) (runTransform step config c)
      (runTransform step config (c.beside extra)) := by
  unfold runTransform
  rw [c.dataScope_beside extra]
  split
  · exact blind_throw _
  · next source _ =>
      split
      · exact blind_throw _
      · intro o
        have same := Expression.unadded_evaluate (n := n) source c.dataScope o
        simp only [raising, same]
        cases Expression.evaluate source c.dataScope o <;> rfl
  · exact blind_pure _

/-! ## Steps -/

/-- An executor that only gives its configuration, evaluates an expression or chooses a branch. -/
def Handler.Closed : Handler σ -> Prop
  | .builtin .output | .builtin .transform | .conditional => True
  | .builtin .template | .plugin _ => False

/--
A step with such an executor, all of whose tokens are of the time or of identifiers, or
begin with names of the engine.  The tokens of a condition are those that are bound in it.
-/
structure Step.Closed (r : Registry σ) (step : Step) : Prop where
  handled : ∀ h, r.get step.type (some step.id) = .ok h -> h.Closed
  config : Within (· ∈ Context.engineNames) (unresolved step.config)
  condition : ∀ text, step.condition = .str text ->
    Within (· ∈ Context.engineNames) (boundPaths text)

namespace Dispatcher

variable {d : Dispatcher σ} (c : Context) (extra : List (Value × Value))

theorem unadded_configOf {step : Step}
    (h : Within (· ∈ Context.engineNames) (unresolved step.config)) :
    Run.Unadded n (configOf c step : Run σ Value) (configOf (c.beside extra) step) :=
  c.unadded_inScope extra (fun agree => Reference.resolve_agree agree step.config h)
    Run.unadded_ownParts

theorem unadded_invoke {h : Handler σ} (closed : h.Closed) {step : Step}
    (hc : ∀ text, step.condition = .str text ->
      Within (· ∈ Context.engineNames) (boundPaths text))
    (config : Value) {choose choose' : List Float -> Bool -> Run σ (Option (List Value))}
    (chosen : ∀ ds b, Run.Unadded n (choose ds b) (choose' ds b)) (deadlines : List Float) :
    Run.Unadded n (invoke h step config c choose deadlines)
      (invoke h step config (c.beside extra) choose' deadlines) := by
  refine (Run.unadded_current config).bind fun config => ?_
  match h, closed with
  | .builtin .output, _ => exact Run.unadded_changing (blind_pure config)
  | .builtin .transform, _ =>
      exact Run.unadded_changing (Builtin.unadded_runTransform step config c extra)
  | .conditional, _ =>
      exact (Condition.unadded_decide c extra hc).bind fun b => (chosen deadlines b).map _

theorem unadded_runStep {step : Step} (closed : step.Closed d.registry)
    {choose choose' : List Float -> Bool -> Run σ (Option (List Value))}
    (chosen : ∀ ds b, Run.Unadded n (choose ds b) (choose' ds b)) (deadlines : List Float) :
    Run.Unadded n (runStep d c deadlines step choose)
      (runStep d (c.beside extra) deadlines step choose') := by
  refine Run.unadded_now.bind fun _ => Run.unadded_ofResult_bind fun handler found => ?_
  refine (unadded_configOf c extra closed.config).bind fun config => ?_
  refine (Attempt.unadded_run d.settings step ?_).bind fun attempted =>
    (Run.unadded_own _).bind fun _ => Run.unadded_now.map _
  exact Deadline.unadded_within step deadlines fun ds =>
    unadded_invoke c extra (closed.handled handler found) closed.condition config chosen ds

mutual

/-- A closed step is dispatched the same beside whatever a caller added. -/
theorem unadded_dispatchWithin (deadlines : List Float) (step : Step)
    (h : ∀ s ∈ step.tree, s.Closed d.registry) :
    Run.Unadded n (dispatchWithin d c deadlines step)
      (dispatchWithin d (c.beside extra) deadlines step) := by
  match step, h with
  | ⟨id, type, description, config, onError, retry, timeout, condition, ifTrue, ifFalse, unread⟩,
    h =>
      rw [Step.tree] at h
      have branches (s : Step) (hs : s ∈ Step.branchTree ifTrue ++ Step.branchTree ifFalse) :
          s.Closed d.registry := h s (List.mem_cons_of_mem _ hs)
      simp only [dispatchWithin]
      refine unadded_runStep c extra (h _ List.mem_cons_self) (fun deadlines chosen => ?_) deadlines
      split
      · exact unadded_dispatchBranch deadlines ifTrue fun s hs =>
          branches s (List.mem_append_left _ hs)
      · exact unadded_dispatchBranch deadlines ifFalse fun s hs =>
          branches s (List.mem_append_right _ hs)

theorem unadded_dispatchBranch (deadlines : List Float) (branch : Option (List Step))
    (h : ∀ s ∈ Step.branchTree branch, s.Closed d.registry) :
    Run.Unadded n (dispatchBranch d c deadlines branch)
      (dispatchBranch d (c.beside extra) deadlines branch) := by
  match branch, h with
  | none, _ =>
      simp only [dispatchBranch]
      exact blind_pure none
  | some steps, h =>
      rw [Step.branchTree] at h
      simp only [dispatchBranch]
      exact (unadded_dispatchAll deadlines steps h).map _

theorem unadded_dispatchAll (deadlines : List Float) (steps : List Step)
    (h : ∀ s ∈ Step.listTree steps, s.Closed d.registry) :
    Run.Unadded n (dispatchAll d c deadlines steps)
      (dispatchAll d (c.beside extra) deadlines steps) := by
  match steps, h with
  | [], _ =>
      simp only [dispatchAll]
      exact blind_pure []
  | step :: rest, h =>
      rw [Step.listTree] at h
      simp only [dispatchAll]
      have first := unadded_dispatchWithin deadlines step fun s hs =>
        h s (List.mem_append_left _ hs)
      have others := unadded_dispatchAll deadlines rest fun s hs =>
        h s (List.mem_append_right _ hs)
      exact first.bind fun outcome => others.map _

end

end Dispatcher

/-! ## Executions -/

/-- A definition of closed steps, at any depth, whose outputs have only such tokens too. -/
structure Definition.Closed (r : Registry σ) (definition : Definition) : Prop where
  steps : ∀ step ∈ definition.everyStep, step.Closed r
  outputs : ∀ outputs ∈ definition.outputs, ∀ p ∈ outputs,
    Within (· ∈ Context.engineNames) (unresolved p.2)

namespace Engine

variable {d : Dispatcher σ}

/-- The same progress beside what another caller added. -/
def Progress.beside (p : Progress) (extra : List (Value × Value)) : Progress :=
  { p with context := p.context.beside extra }

/-- A step is recorded the same beside whatever a caller added. -/
theorem unadded_advance {step : Step} (h : ∀ s ∈ step.tree, s.Closed d.registry) (p : Progress)
    (extra : List (Value × Value)) :
    Run.Unadded n (do pure ((<- advance d p step).beside extra))
      (advance d (p.beside extra) step) := by
  simp only [advance, bind_assoc, pure_bind]
  refine (Dispatcher.unadded_dispatchWithin p.context extra [] step h).bind fun outcome =>
    Run.unadded_now.bind fun now => ?_
  unfold Context.record Progress.beside Context.beside
  dsimp only
  split
  · exact blind_throw _
  · exact blind_pure _

theorem advanceAll_beside (steps : List Step) (h : ∀ s ∈ Step.listTree steps, s.Closed d.registry)
    (p : Progress) (extra : List (Value × Value)) (w : World σ) :
    advanceAll d (p.beside extra) steps (w.withAdded n) =
      (((advanceAll d p steps w).1.1.beside extra, (advanceAll d p steps w).1.2),
        (advanceAll d p steps w).2.withAdded n) := by
  induction steps generalizing p w with
  | nil => rfl
  | cons step rest ih =>
      rw [Step.listTree] at h
      have here := unadded_advance (n := n) (fun s hs => h s (List.mem_append_left _ hs)) p extra w
      simp only [advanceAll, here, bind, EStateM.bind]
      cases advance d p step w with
      | ok q v => exact ih (fun s hs => h s (List.mem_append_right _ hs)) q v
      | error r v => rfl

theorem unadded_outputsOf {definition : Definition} (h : definition.Closed d.registry)
    (c : Context) (extra : List (Value × Value)) :
    Run.Unadded n (outputsOf definition c : Run σ Value)
      (outputsOf definition (c.beside extra)) := by
  unfold outputsOf
  cases ho : definition.outputs with
  | none => exact blind_pure _
  | some outputs =>
      exact c.unadded_inScope extra
        (fun agree => resolveOutputs_agree agree outputs (h.outputs outputs ho))
        fun _ => Run.unadded_own _

/-- The steps of a closed definition end the same beside whatever a caller added. -/
theorem runToEnd_beside {definition : Definition} (h : definition.Closed d.registry) (c : Context)
    (extra : List (Value × Value)) (x : Execution) (w : World σ) :
    runToEnd d definition (c.beside extra) x (w.withAdded n) =
      ((runToEnd d definition c x w).1, (runToEnd d definition c x w).2.withAdded n) := by
  have steps := advanceAll_beside (n := n) definition.steps h.steps ⟨c, []⟩ extra w
  simp only [Progress.beside] at steps
  simp only [runToEnd, steps]
  rcases advanceAll d ⟨c, []⟩ definition.steps w with ⟨⟨p, stop⟩, v⟩
  cases stop with
  | some s => rfl
  | none =>
      have outputs := unadded_outputsOf (n := n) h p.context extra v
      simp only [outputs]
      cases outputsOf definition p.context v <;> rfl

/-- What is executed has the steps and the outputs of what is stored. -/
theorem prepare_closed {e f : Engine σ} {name : String} {inputs given : List (Value × Value)}
    {definition : Definition} {w v : World σ}
    (h : ∀ stored, e.store.get? name = some stored -> stored.Closed e.registry)
    (hp : prepare e name inputs w = ((f, .ok (definition, given)), v)) :
    definition.Closed f.registry := by
  unfold prepare at hp
  split at hp
  · cases hp
  · next stored hs =>
      have closed := h stored hs
      dsimp only at hp
      cases hc : checkInputs inputs (adoptDefaults w.objects stored.inputs).1 with
      | error problem =>
          rw [hc] at hp
          cases hp
      | ok admitted =>
          rw [hc] at hp
          cases hp
          exact ⟨closed.steps, closed.outputs⟩

/-- What a caller adds stands in the new context, and its marks are counted in the world. -/
theorem openRecord_beside (e : Engine σ) (env : Environment) (definition : Definition)
    (inputs extra other : List (Value × Value)) (w : World σ) :
    ∃ added n, openRecord e env definition inputs other w =
      (((openRecord e env definition inputs extra w).1.1,
        (openRecord e env definition inputs extra w).1.2.1.beside added,
        (openRecord e env definition inputs extra w).1.2.2),
      (openRecord e env definition inputs extra w).2.withAdded n) :=
  ⟨_, _, rfl⟩

/--
Executions of a closed definition that differ only in what a caller added give the same
record and the same outputs or error, and leave the same world but for the number of marks
that what was added got, so that all values hold the same by then.
-/
theorem execute_isolated {e : Engine σ} {name : String}
    (h : ∀ definition, e.store.get? name = some definition -> definition.Closed e.registry)
    (env : Environment) (inputs extra other : List (Value × Value)) (w : World σ) :
    (execute e env name inputs other w).1 = (execute e env name inputs extra w).1 ∧
      (∃ n, (execute e env name inputs other w).2 =
        (execute e env name inputs extra w).2.withAdded n) ∧
      ∀ v, (execute e env name inputs other w).2.objects.refresh v =
        (execute e env name inputs extra w).2.objects.refresh v := by
  suffices same : ∃ n, execute e env name inputs other w =
      ((execute e env name inputs extra w).1,
        (execute e env name inputs extra w).2.withAdded n) by
    obtain ⟨n, same⟩ := same
    rw [same]
    exact ⟨rfl, ⟨n, rfl⟩, fun v => Objects.refresh_withAdded n _ v⟩
  simp only [execute]
  rcases hp : prepare e name inputs w with ⟨⟨f, problem | ⟨definition, given⟩⟩, v⟩
  · exact ⟨v.objects.nextAdded, rfl⟩
  · have closed := prepare_closed h hp
    obtain ⟨added, n, opened⟩ := openRecord_beside f env definition given extra other v
    have kept : (openRecord f env definition given extra v).1.1.registry = f.registry := rfl
    rcases hr : openRecord f env definition given extra v with ⟨⟨g, c, x⟩, u⟩
    rw [hr] at opened kept
    rw [← kept] at closed
    have ended := runToEnd_beside (d := ⟨g.settings, g.registry⟩) (n := n) closed c added x u
    refine ⟨n, ?_⟩
    simp only [opened, hr, ended]
    rfl

/-- A step that gives an input and the time. -/
def askedStep : Step :=
  { Step.plain "a" "output" with
    config := .dict [(.str "who", .str "\x7b\x7b inputs.who \x7d\x7d"),
      (.str "at", .str "\x7b\x7b now \x7d\x7d")] }

/-- A step that makes a greeting out of what the step before gave. -/
def greetingStep : Step :=
  { Step.plain "c" "transform" with
    config := .dict [(.str "expression", .str "'Hello ' + steps.a.output.who")] }

/-- A step that greets who is named. -/
def namedStep : Step :=
  { Step.plain "b" "conditional" with
    condition := .str "\x7b\x7b steps.a.output.who \x7d\x7d != ''"
    ifTrue := some [greetingStep] }

/-- An engine with a definition of closed steps and an output. -/
def greeter : Engine Unit :=
  { withSteps [] with
    store := [("w", ⟨"w", none, none, [],
      some [("greeting", .str "\x7b\x7b steps.b.output.results.0 \x7d\x7d")], .null,
      [askedStep, namedStep], none, none⟩)] }

theorem execute_isolated_greeting :
    (execute greeter [] "w" [(.str "who", .str "you")] [(.str "inputs", .null)] dawn).1 =
        (execute greeter [] "w" [(.str "who", .str "you")] [] dawn).1 ∧
      (execute greeter [] "w" [(.str "who", .str "you")] [] dawn).1.2.isOk = true := by
  refine ⟨(execute_isolated (fun definition hd => ?_) [] _ [] _ dawn).1, by decide +kernel⟩
  cases hd
  refine ⟨?_, fun outputs ho => ?_⟩
  · have all : ∀ step ∈ [askedStep, namedStep, greetingStep], step.Closed greeter.registry := by
      simp only [List.forall_mem_cons]
      refine ⟨⟨?_, by decide +kernel, ?_⟩, ⟨?_, by decide +kernel, ?_⟩,
        ⟨?_, by decide +kernel, ?_⟩, fun _ none => absurd none List.not_mem_nil⟩
      · rintro _ ⟨⟩
        trivial
      · rintro _ ⟨⟩
      · rintro _ ⟨⟩
        trivial
      · rintro _ ⟨⟩
        decide +kernel
      · rintro _ ⟨⟩
        trivial
      · rintro _ ⟨⟩
    exact all
  · cases ho
    decide +kernel

end Engine

end Workflow
