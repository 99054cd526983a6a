import Workflow.Engine
import Workflow.Proofs.Expr.Names
import Workflow.Proofs.Reference.Plain
import Workflow.Proofs.Template.Rendering

/-!
# What executions see of the environment

The environment is one name of the scopes that steps are run in.  A step spares it when
nothing that is read as source in the step leads there: no token of its configuration or
condition, no name of its template, and no name of its expression, which has to stand in
the definition.  Where all steps spare the environment, it makes no difference to an
execution.
-/

namespace Workflow

open Reference (Avoids unresolved pathsOf boundPaths)

variable {σ : Type}

/-- Two computations that do the same, and go on alike from what they give, end alike. -/
theorem Effect.bind_congr {ε τ α β : Type} {m n : EStateM ε τ α} {k l : α -> EStateM ε τ β} {s : τ}
    (same : m s = n s) (h : ∀ a t, m s = .ok a t -> k a t = l a t) : (m >>= k) s = (n >>= l) s := by
  simp only [bind, EStateM.bind, ← same]
  split
  · next a t heq => exact h a t heq
  · rfl

/-! ## Conditions and built-in steps -/

/-- The context among another environment. -/
def Context.within (c : Context) (env : Environment) : Context :=
  { c with env }

theorem Context.within_inputs (c : Context) (env : Environment) :
    (c.within env).inputs = c.inputs :=
  rfl

namespace Condition

/-- A condition whose tokens do not begin with the environment is decided the same. -/
theorem decide_within (c : Context) (env other : Environment) {condition : Value}
    (h : ∀ text, condition = .str text -> Avoids "env" (boundPaths text)) :
    (decide (c.within env) condition : Run σ Bool) = decide (c.within other) condition := by
  unfold decide
  split
  · rfl
  · rfl
  · next text =>
      split
      · rfl
      · refine bind_congr fun w => ?_
        have bound (reserved : List String) :
            Reference.bind (.dict ((c.within env).current w.objects).scope) reserved text =
              Reference.bind (.dict ((c.within other).current w.objects).scope) reserved text :=
          Reference.bind_alike ((c.current w.objects).scope_alike env other) reserved (h text rfl)
        simp only [bound]
        rfl
  · rfl

end Condition

/-- An expression that does not name the environment. -/
def Expr.Sparing (source : String) : Prop :=
  ∀ e, Expr.statementOf source = .ok e -> e.Within (· ≠ "env")

/-- A template that does not name the environment. -/
def Template.Sparing (source : String) : Prop :=
  ∀ body, Template.compile source = .ok body -> Template.BodyWithin (· ≠ "env") body

/--
The expression of a configuration stands there itself, since no token puts in the
configuration or the expression, and it does not name the environment.
-/
structure Builtin.OwnExpression (config : Value) : Prop where
  written : config.Plain fun text => pathsOf text = []
  sparing : ∀ entries v, config = .dict entries -> Value.field? entries "expression" = some v ->
    v.Plain fun text => pathsOf text = [] ∧ Expr.Sparing text

namespace Builtin

theorem runTransform_within (step : Step) (c : Context) (env other : Environment) {config : Value}
    (h : ∀ source, fieldOf config "expression" = .str source -> Expr.Sparing source) :
    runTransform step config (c.within env) = runTransform step config (c.within other) := by
  have agree : Expr.AgreeOn (· ≠ "env") (c.within env).dataScope (c.within other).dataScope :=
    fun _ hid => (c.dataScope_alike env other).field? hid
  unfold runTransform
  split
  · rfl
  · next source heq => rw [Expr.evaluate_agree agree (h source heq)]
  · rfl

theorem runTemplate_within (step : Step) (c : Context) (env other : Environment) (config : Value)
    (h : ∀ source, fieldOf step.config "template" = .str source -> Template.Sparing source) :
    runTemplate step config (c.within env) = runTemplate step config (c.within other) := by
  have alike :
      AlikeBut "env" (visible config (c.within env)) (visible config (c.within other)) := by
    unfold visible
    dsimp only
    split
    · exact ((c.scope_alike env other).insertAll _).named
    · exact (c.scope_alike env other).named
  unfold runTemplate
  split
  · next source _ heq _ => rw [Template.render_alike alike (h source heq)]
  · rfl

/-- A configuration in which the expression, if it is a text, does not name the environment. -/
def Ready (config : Value) : Prop :=
  ∀ o : Objects, ∀ source, fieldOf (o.refresh config) "expression" = .str source ->
    Expr.Sparing source

/-- What is neither a dictionary nor changeable has no fields, whatever was changed. -/
theorem fieldOf_refresh (o : Objects) {v : Value} (dict : ∀ entries, v ≠ .dict entries)
    (object : ∀ m content, v ≠ .object m content) (name : String) :
    fieldOf (o.refresh v) name = .null := by
  unfold Objects.refresh
  split
  · cases v <;> first | rfl | exact absurd rfl (dict _) | exact absurd rfl (object _ _)
  · cases v <;> first | rfl | exact absurd rfl (dict _) | exact absurd rfl (object _ _)

/-- Marks for what a value holds make it neither a dictionary nor changeable. -/
theorem adoptParts_fieldless (o : Objects) {v : Value} (dict : ∀ entries, v ≠ .dict entries)
    (object : ∀ m content, v ≠ .object m content) :
    (∀ entries, (o.adoptParts v).1 ≠ .dict entries) ∧
      ∀ m content, (o.adoptParts v).1 ≠ .object m content := by
  cases v with
  | dict entries => exact absurd rfl (dict entries)
  | object m content => exact absurd rfl (object m content)
  | _ => exact ⟨nofun, nofun⟩

/-- What is no dictionary and holds no token resolves to no dictionary, and nothing changeable. -/
theorem resolve_fieldless {config resolved : Value}
    (written : config.Plain fun text => pathsOf text = [])
    (dict : ∀ entries, config ≠ .dict entries) {scope : Value} {f g : Fresh}
    (hr : Reference.resolve scope config f = .ok resolved g) :
    (∀ entries, resolved ≠ .dict entries) ∧ ∀ m content, resolved ≠ .object m content := by
  cases config with
  | dict entries => exact absurd rfl (dict entries)
  | object => exact written.elim
  | str text =>
      rw [Reference.resolve, Reference.resolveText_of_tokenless scope written] at hr
      cases hr
      exact ⟨nofun, nofun⟩
  | list items =>
      simp only [Reference.resolve, bind, EStateM.bind] at hr
      split at hr <;> cases hr
      exact ⟨nofun, nofun⟩
  | tuple items =>
      simp only [Reference.resolve, bind, EStateM.bind] at hr
      split at hr <;> cases hr
      exact ⟨nofun, nofun⟩
  | _ =>
      cases hr
      exact ⟨nofun, nofun⟩

/-- An expression that stands in a configuration is still there once that is resolved. -/
theorem ready_of_own {config resolved : Value} (h : OwnExpression config) {scope : Value}
    {f g : Fresh} (hr : Reference.resolve scope config f = .ok resolved g) (o : Objects) :
    Ready (o.adoptParts resolved).1 := by
  intro p source hs
  by_cases dict : ∃ entries, config = .dict entries
  · obtain ⟨entries, rfl⟩ := dict
    simp only [Reference.resolve, bind, EStateM.bind] at hr
    cases he : Reference.resolveEntries scope entries f with
    | error => simp only [he] at hr; cases hr
    | ok others g' =>
        simp only [he] at hr
        cases hr
        have kept := Reference.resolveEntries_textUnder entries (h.sparing entries · rfl) he
        obtain ⟨shown, hp, kept⟩ :=
          p.refresh_textUnder (Objects.markEntries_textUnder false o.next kept)
        simp only [Objects.adoptParts, hp, fieldOf, Value.bare] at hs
        cases hf : Value.field? shown "expression" with
        | none => simp only [hf, Option.getD_none] at hs; cases hs
        | some v =>
            simp only [hf, Option.getD_some] at hs
            exact kept source (hs ▸ hf)
  · obtain ⟨resolvedDict, resolvedObject⟩ :=
      resolve_fieldless h.written (not_exists.mp dict) hr
    obtain ⟨noDict, noObject⟩ := adoptParts_fieldless o resolvedDict resolvedObject
    rw [fieldOf_refresh p noDict noObject] at hs
    cases hs

end Builtin

/-! ## Steps -/

/-- An executor that spares the environment when it runs a step. -/
def Handler.Spares (step : Step) : Handler σ -> Prop
  | .builtin .transform => Builtin.OwnExpression step.config
  | .builtin .template =>
      ∀ source, Builtin.fieldOf step.config "template" = .str source -> Template.Sparing source
  | .builtin .output => True
  | .conditional => ∀ text, step.condition = .str text -> Avoids "env" (boundPaths text)
  | .plugin _ => False

/-- A step that spares the environment, and so do the steps of the branches it may choose. -/
inductive Step.Spares (r : Registry σ) : Step -> Prop where
  | intro (step : Step) :
      Avoids "env" (unresolved step.config) ->
      (∀ h, r.get step.type (some step.id) = .ok h -> h.Spares step) ->
      (r.get step.type (some step.id) = .ok .conditional -> ∀ steps ∈ step.ifTrue, ∀ s ∈ steps,
        Spares r s) ->
      (r.get step.type (some step.id) = .ok .conditional -> ∀ steps ∈ step.ifFalse, ∀ s ∈ steps,
        Spares r s) -> Spares r step

namespace Dispatcher

variable {d : Dispatcher σ} {c : Context} {env other : Environment}

theorem configOf_within {step : Step} (h : Avoids "env" (unresolved step.config)) (w : World σ) :
    configOf (c.within env) step w = configOf (c.within other) step w := by
  obtain ⟨s, t, hs, ht, alike⟩ := (c.scope_alike env other).refresh w.objects
  have same := Reference.resolve_alike alike step.config h
  rw [← hs, ← ht] at same
  have unfolded (c : Context) : configOf c step w =
      (Run.resolving (Reference.resolve (w.objects.refresh (.dict c.scope)) step.config) >>=
        Run.ownParts) w := rfl
  rw [unfolded, unfolded, Context.within, Context.within, same]

/-- A resolved configuration is ready for the expression that stands in it. -/
theorem configOf_ready {step : Step} (h : Builtin.OwnExpression step.config) {w v : World σ}
    {config : Value} (hc : configOf c step w = .ok config v) : Builtin.Ready config := by
  have unfolded : configOf c step w =
      (Run.resolving (Reference.resolve (w.objects.refresh (.dict c.scope)) step.config) >>=
        Run.ownParts) w := rfl
  rw [unfolded] at hc
  cases hr : Reference.resolve (w.objects.refresh (.dict c.scope)) step.config w.fresh with
  | error f fresh =>
      simp only [bind, EStateM.bind, Run.resolving, hr] at hc
      cases hc
  | ok resolved fresh =>
      simp only [bind, EStateM.bind, Run.resolving, hr] at hc
      cases hc
      exact Builtin.ready_of_own h hr _

/-- With a resolved configuration the executor of a step does the same. -/
theorem invoke_within {handler : Handler σ} {step : Step} (hh : handler.Spares step)
    {config : Value} (hc : handler = .builtin .transform -> Builtin.Ready config)
    {choose choose' : List Float -> Bool -> Run σ (Option (List Value))}
    (hchoose : handler = .conditional -> choose = choose') :
    invoke handler step config (c.within env) choose =
      invoke handler step config (c.within other) choose' := by
  funext deadlines w
  refine Effect.bind_congr rfl fun shown v hshown => ?_
  cases hshown
  cases handler with
  | builtin b =>
      cases b with
      | transform =>
          have same := Builtin.runTransform_within step c env other (hc rfl w.objects)
          simp only [Builtin.run, same]
      | template =>
          have same := Builtin.runTemplate_within step c env other (w.objects.refresh config) hh
          simp only [Builtin.run, same]
      | output => rfl
  | conditional =>
      have same : (Condition.decide (c.within env) step.condition : Run σ Bool) =
          Condition.decide (c.within other) step.condition := Condition.decide_within c env other hh
      simp only [same, hchoose rfl]
  | plugin => exact hh.elim

theorem runStep_within {step : Step} (h : step.Spares d.registry)
    {choose choose' : List Float -> Bool -> Run σ (Option (List Value))}
    (hchoose : d.registry.get step.type (some step.id) = .ok .conditional -> choose = choose')
    (deadlines : List Float) :
    runStep d (c.within env) deadlines step choose =
      runStep d (c.within other) deadlines step choose' := by
  obtain ⟨_, tokens, handlers, -, -⟩ := h
  refine bind_congr fun startedAt => ?_
  funext w
  refine Effect.bind_congr rfl fun handler v hfound => ?_
  have hg : d.registry.get step.type (some step.id) = .ok handler := by
    cases hr : d.registry.get step.type (some step.id) <;> rw [hr] at hfound <;> cases hfound
    rfl
  have spares := handlers handler hg
  refine Effect.bind_congr (configOf_within tokens v) fun config u hconfig => ?_
  have ready (ht : handler = .builtin .transform) : Builtin.Ready config := by
    subst ht
    exact configOf_ready spares hconfig
  have same : invoke handler step config (c.within env) choose =
      invoke handler step config (c.within other) choose' :=
    invoke_within spares ready fun hc => hchoose (hc ▸ hg)
  rw [same]

mutual

/-- A step that spares the environment is dispatched the same in every environment. -/
theorem dispatchWithin_within (deadlines : List Float) (step : Step) (h : step.Spares d.registry) :
    dispatchWithin d (c.within env) deadlines step =
      dispatchWithin d (c.within other) deadlines step := by
  match step, h with
  | ⟨id, type, description, config, onError, retry, timeout, condition, ifTrue, ifFalse, extra⟩,
    h =>
      simp only [dispatchWithin]
      refine runStep_within h (fun hg => ?_) deadlines
      obtain ⟨_, -, -, hyes, hno⟩ := h
      funext deadlines chosen
      rw [dispatchBranch_within deadlines ifTrue (hyes hg),
        dispatchBranch_within deadlines ifFalse (hno hg)]

theorem dispatchBranch_within (deadlines : List Float) (branch : Option (List Step))
    (h : ∀ steps ∈ branch, ∀ s ∈ steps, s.Spares d.registry) :
    dispatchBranch d (c.within env) deadlines branch =
      dispatchBranch d (c.within other) deadlines branch := by
  match branch with
  | none => rfl
  | some steps => simp only [dispatchBranch, dispatchAll_within deadlines steps (h steps rfl)]

theorem dispatchAll_within (deadlines : List Float) (steps : List Step)
    (h : ∀ s ∈ steps, s.Spares d.registry) :
    dispatchAll d (c.within env) deadlines steps =
      dispatchAll d (c.within other) deadlines steps := by
  match steps with
  | [] => rfl
  | step :: rest =>
      simp only [dispatchAll, dispatchWithin_within deadlines step (h step List.mem_cons_self),
        dispatchAll_within deadlines rest fun s hs => h s (List.mem_cons_of_mem step hs)]

end

end Dispatcher

/-! ## Executions -/

/-- A definition all of whose steps and outputs spare the environment. -/
structure Definition.Spares (r : Registry σ) (definition : Definition) : Prop where
  steps : ∀ step ∈ definition.steps, step.Spares r
  outputs : ∀ outputs ∈ definition.outputs, ∀ p ∈ outputs, Avoids "env" (unresolved p.2)

namespace Engine

variable {d : Dispatcher σ}

/-- The same progress among another environment. -/
def Progress.within (p : Progress) (env : Environment) : Progress :=
  { p with context := p.context.within env }

theorem advance_within {step : Step} (h : step.Spares d.registry) (p : Progress)
    (env : Environment) :
    advance d (p.within env) step = (fun q => q.within env) <$> advance d p step := by
  have same : d.dispatch (p.context.within env) step =
      d.dispatch (p.context.within p.context.env) step :=
    Dispatcher.dispatchWithin_within [] step h
  change _ = d.dispatch p.context step at same
  unfold advance
  simp only [map_bind, Progress.within, same]
  refine bind_congr fun outcome => bind_congr fun now => ?_
  unfold Context.record Context.within
  dsimp only
  split <;> rfl

theorem advanceAll_within (steps : List Step) (h : ∀ step ∈ steps, step.Spares d.registry)
    (p : Progress) (env : Environment) (w : World σ) :
    advanceAll d (p.within env) steps w =
      (((advanceAll d p steps w).1.1.within env, (advanceAll d p steps w).1.2),
        (advanceAll d p steps w).2) := by
  induction steps generalizing p w with
  | nil => rfl
  | cons step rest ih =>
      have here := congrFun (advance_within (h step List.mem_cons_self) p env) w
      simp only [advanceAll, here, Functor.map, EStateM.map]
      cases advance d p step w with
      | ok q v => exact ih (fun s hs => h s (List.mem_cons_of_mem step hs)) q v
      | error r v => rfl

theorem resolveOutputs_agree {P : String -> Prop} {s t : List (Value × Value)}
    (agree : Expr.AgreeOn P s t) (outputs : List (String × Value))
    (h : ∀ p ∈ outputs, Reference.Within P (unresolved p.2)) :
    resolveOutputs (.dict s) outputs = resolveOutputs (.dict t) outputs := by
  induction outputs with
  | nil => rfl
  | cons p rest ih =>
      obtain ⟨name, v⟩ := p
      simp only [resolveOutputs, Reference.resolve_agree agree v (h _ List.mem_cons_self),
        ih fun p hp => h p (List.mem_cons_of_mem _ hp)]

theorem outputsOf_within {definition : Definition} (h : definition.Spares d.registry) (c : Context)
    (env : Environment) (w : World σ) :
    outputsOf definition (c.within env) w = outputsOf definition c w := by
  unfold outputsOf
  cases ho : definition.outputs with
  | none => rfl
  | some outputs =>
      obtain ⟨s, t, hs, ht, alike⟩ := (c.scope_alike env c.env).refresh w.objects
      have same := resolveOutputs_agree alike.agree outputs fun p hp =>
        (h.outputs outputs ho p hp).within
      rw [← hs, ← ht] at same
      have unfolded (c : Context) :
          (do
            let scope <- Run.current (.dict c.scope)
            Run.own (.record (<- Run.resolving (resolveOutputs scope outputs))) : Run σ Value) w =
          (Run.resolving (resolveOutputs (w.objects.refresh (.dict c.scope)) outputs) >>= fun os =>
            Run.own (.record os)) w := rfl
      simp only [unfolded]
      rw [Context.within, same]

/-- The steps of a definition that spares the environment end the same in every environment. -/
theorem runToEnd_within {definition : Definition} (h : definition.Spares d.registry) (c : Context)
    (env : Environment) (x : Execution) :
    runToEnd d definition (c.within env) x = runToEnd d definition c x := by
  funext w
  have steps := advanceAll_within definition.steps h.steps ⟨c, []⟩ env w
  simp only [Progress.within] at steps
  simp only [runToEnd, steps]
  cases advanceAll d ⟨c, []⟩ definition.steps w with
  | mk ended v => simp only [outputsOf_within h ended.1.context env v]

theorem contextOf_within (definition : Definition) (id : String) (env other : Environment)
    (inputs : Value) (extra : List (Value × Value)) (o : Objects) :
    (contextOf definition id other inputs extra).adopt o =
      (((contextOf definition id env inputs extra).adopt o).1.within other,
        ((contextOf definition id env inputs extra).adopt o).2) :=
  rfl

/-- Where a definition spares the environment, an execution is the same in every environment. -/
theorem execute_spares {e : Engine σ} {name : String}
    (h : ∀ definition, e.store.get? name = some definition -> definition.Spares e.registry)
    (env other : Environment) (inputs extra : List (Value × Value)) (w : World σ) :
    execute e env name inputs extra w = execute e other name inputs extra w := by
  simp only [execute, prepare]
  cases hs : e.store.get? name with
  | none => rfl
  | some definition =>
      cases hc : checkInputs inputs (adoptDefaults w.objects definition.inputs).1 with
      | error problem => simp only [hc, Except.map]
      | ok given =>
          have spares := h definition hs
          -- the marks of defaults are all that is new in the definition that is run
          have marked : Definition.Spares e.registry
              { definition with inputs := (adoptDefaults w.objects definition.inputs).1 } :=
            ⟨spares.steps, spares.outputs⟩
          have ended (c : Context) (x : Execution) (v : World σ) :=
            congrFun (runToEnd_within (d := ⟨e.settings, e.registry⟩) marked c other x) v
          simp only [hc, Except.map, openRecord, contextOf_within _ _ env other,
            Context.within_inputs, ended]

end Engine

end Workflow
