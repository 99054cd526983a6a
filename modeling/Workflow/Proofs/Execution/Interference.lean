import Workflow.Proofs.Execution.Causality
import Workflow.Proofs.Execution.Environment
import Workflow.Proofs.Expr.Reading
import Workflow.Proofs.Reference.Occurrence
import Workflow.Proofs.Template.Reading

/-!
# What is given does not read the environment

Where the name of the environment occurs in no string of a definition, nothing that a
caller gives makes its steps read the environment.  An expression has to stand in the
definition itself, though, since a token in it puts a given text where source is read.
-/

namespace Workflow

variable {σ : Type}

/-! ## The strings of a definition -/

namespace Step

mutual

/-- A step and the steps of its branches, at any depth. -/
def tree : Step -> List Step
  | ⟨id, type, description, config, onError, retry, timeout, condition, ifTrue, ifFalse, extra⟩ =>
      ⟨id, type, description, config, onError, retry, timeout, condition, ifTrue, ifFalse, extra⟩
        :: (branchTree ifTrue ++ branchTree ifFalse)

/-- The steps of a branch, at any depth. -/
def branchTree : Option (List Step) -> List Step
  | none => []
  | some steps => listTree steps

/-- Some steps and the steps of their branches, at any depth. -/
def listTree : List Step -> List Step
  | [] => []
  | step :: rest => tree step ++ listTree rest

end

/-- The strings that are read when a step is run: those of its configuration and condition. -/
def strings (step : Step) : List String :=
  step.config.strings ++ step.condition.strings

/--
A step whose expression stands in its configuration as it is evaluated: no token puts in
the configuration or the expression, and no run of its characters is, in the normal form
of names, the name of the environment.
-/
structure OwnExpression (step : Step) : Prop where
  written : step.config.Plain fun text => Reference.pathsOf text = []
  named : ∀ entries v, step.config = .dict entries -> Value.field? entries "expression" = some v ->
    v.Plain fun text => Reference.pathsOf text = [] ∧
      Reading.RunsWithin (· ≠ "env") text.toList

end Step

namespace Definition

/-- The steps of a definition, those of branches included. -/
def everyStep (definition : Definition) : List Step :=
  Step.listTree definition.steps

/-- The strings that are read when a definition is run: those of its steps and outputs. -/
def strings (definition : Definition) : List String :=
  definition.everyStep.flatMap Step.strings
    ++ (definition.outputs.getD []).flatMap fun p => p.2.strings

/--
A definition of built-in steps in which the name of the environment does not occur, and
whose expressions stand in it themselves.
-/
structure Silent (r : Registry σ) (definition : Definition) : Prop where
  builtin : ∀ step ∈ definition.everyStep, ∀ p, r.get step.type (some step.id) ≠ .ok (.plugin p)
  unnamed : ∀ text ∈ definition.strings, Text.Lacks "env" text
  own : ∀ step ∈ definition.everyStep,
    r.get step.type (some step.id) = .ok (.builtin .transform) -> step.OwnExpression

end Definition

/-! ## Steps that spare the environment -/

theorem Expr.sparing_of_runs {source : String} (h : Reading.RunsWithin (· ≠ "env") source.toList) :
    Expr.Sparing source :=
  fun _ he => Expr.statementOf_within h he

theorem Template.sparing_of_lacks {source : String} (h : Text.Lacks "env" source) :
    Template.Sparing source := by
  intro body hb
  simp only [Template.compile, bind, Except.bind] at hb
  split at hb
  · cases hb
  · next body' hr =>
      split at hb
      · cases hb
      · cases hb
        exact Template.read_within (fun word hw _ => h.ne_of_stretch hw) hr

/-- The strings of an entry are strings of the entries. -/
theorem Value.field?_strings {entries : List (Value × Value)} {name : String} {v : Value}
    (h : Value.field? entries name = some v) : v.strings ⊆ Value.stringsOfEntries entries := by
  induction entries with
  | nil => cases h
  | cons e rest ih =>
      obtain ⟨k, u⟩ := e
      intro text ht
      rcases field?_cons k u rest name with ⟨-, hf⟩ | ⟨-, hf⟩
      · rw [hf] at h
        cases h
        exact List.mem_append_left _ (List.mem_append_right _ ht)
      · exact List.mem_append_right _ (ih (hf ▸ h) ht)

theorem Builtin.fieldOf_strings {config : Value} {name text : String}
    (h : Builtin.fieldOf config name = .str text) : text ∈ config.strings := by
  have under {entries : List (Value × Value)}
      (h : (Value.field? entries name).getD .null = .str text) :
      text ∈ Value.stringsOfEntries entries := by
    cases hf : Value.field? entries name with
    | none =>
        rw [hf] at h
        cases h
    | some v =>
        rw [hf] at h
        cases h
        exact Value.field?_strings hf List.mem_cons_self
  unfold Builtin.fieldOf at h
  split at h
  · next entries heq =>
      cases config with
      | dict => cases heq; exact under h
      | object m content => cases heq; exact under h
      | _ => cases heq
  · cases h

/-- A built-in step in whose strings the environment is not named spares it. -/
theorem Handler.spares_of_lacks {step : Step}
    (unnamed : ∀ text ∈ step.strings, Text.Lacks "env" text)
    {handler : Handler σ} (builtin : ∀ p, handler ≠ .plugin p)
    (own : handler = .builtin .transform -> step.OwnExpression) : handler.Spares step := by
  have config (text : String) (ht : text ∈ step.config.strings) : Text.Lacks "env" text :=
    unnamed text (List.mem_append_left _ ht)
  match handler with
  | .builtin .transform =>
      obtain ⟨written, named⟩ := own rfl
      refine ⟨written, fun entries v he hf => ?_⟩
      have stands := named entries v he hf
      cases v with
      | str text => exact ⟨stands.1, Expr.sparing_of_runs stands.2⟩
      | object => exact stands.elim
      | _ => trivial
  | .builtin .template =>
      exact fun source hs => Template.sparing_of_lacks (config source (Builtin.fieldOf_strings hs))
  | .builtin .output => trivial
  | .conditional =>
      refine fun text ht => Reference.boundPaths_avoid (unnamed text (List.mem_append_right _ ?_))
      rw [ht]
      exact List.mem_cons_self
  | .plugin p => exact absurd rfl (builtin p)

mutual

/-- A step spares the environment when each step of its tree does so by itself. -/
theorem Step.spares_of_tree {r : Registry σ} (step : Step)
    (h : ∀ s ∈ step.tree, Reference.Avoids "env" (Reference.unresolved s.config) ∧
      ∀ handler, r.get s.type (some s.id) = .ok handler -> handler.Spares s) : step.Spares r := by
  match step, h with
  | ⟨id, type, description, config, onError, retry, timeout, condition, ifTrue, ifFalse, extra⟩,
    h =>
      rw [Step.tree] at h
      obtain ⟨tokens, handlers⟩ := h _ List.mem_cons_self
      refine .intro _ tokens handlers (fun _ => ?_) (fun _ => ?_)
      · refine Step.spares_of_branchTree ifTrue fun s hs => h s (List.mem_cons_of_mem _ ?_)
        exact List.mem_append_left _ hs
      · refine Step.spares_of_branchTree ifFalse fun s hs => h s (List.mem_cons_of_mem _ ?_)
        exact List.mem_append_right _ hs

theorem Step.spares_of_branchTree {r : Registry σ} (branch : Option (List Step))
    (h : ∀ s ∈ Step.branchTree branch, Reference.Avoids "env" (Reference.unresolved s.config) ∧
      ∀ handler, r.get s.type (some s.id) = .ok handler -> handler.Spares s) :
    ∀ steps ∈ branch, ∀ s ∈ steps, s.Spares r := by
  match branch with
  | none => exact nofun
  | some steps =>
      intro others ho
      cases ho
      exact Step.spares_of_listTree steps h

theorem Step.spares_of_listTree {r : Registry σ} (steps : List Step)
    (h : ∀ s ∈ Step.listTree steps, Reference.Avoids "env" (Reference.unresolved s.config) ∧
      ∀ handler, r.get s.type (some s.id) = .ok handler -> handler.Spares s) :
    ∀ s ∈ steps, s.Spares r := by
  match steps with
  | [] => exact nofun
  | step :: rest =>
      rw [Step.listTree] at h
      have here := Step.spares_of_tree step fun s hs => h s (List.mem_append_left _ hs)
      have later := Step.spares_of_listTree rest fun s hs => h s (List.mem_append_right _ hs)
      exact List.forall_mem_cons.mpr ⟨here, later⟩

end

theorem Definition.Silent.spares {r : Registry σ} {definition : Definition}
    (silent : definition.Silent r) : definition.Spares r := by
  have unnamed (step : Step) (hs : step ∈ definition.everyStep) (text : String)
      (ht : text ∈ step.strings) : Text.Lacks "env" text :=
    silent.unnamed text (List.mem_append_left _ (List.mem_flatMap.mpr ⟨step, hs, ht⟩))
  refine ⟨Step.spares_of_listTree definition.steps fun s hs => ⟨?_, fun handler hg => ?_⟩, ?_⟩
  · refine Reference.unresolved_avoid s.config fun text ht => unnamed s hs text ?_
    exact List.mem_append_left _ ht
  · refine Handler.spares_of_lacks (unnamed s hs) (fun p hp => ?_) (fun ht => ?_)
    · exact silent.builtin s hs p (hp ▸ hg)
    · exact silent.own s hs (ht ▸ hg)
  · intro outputs ho p hp
    refine Reference.unresolved_avoid p.2 fun text ht => silent.unnamed text ?_
    rw [Definition.strings, ho]
    exact List.mem_append_right _ (List.mem_flatMap.mpr ⟨p, hp, ht⟩)

namespace Engine

/--
Where the definition of a name is silent about the environment, the environment makes no
difference: whatever a caller gives, an execution ends with the same result and record,
and leaves the same engine and world.
-/
theorem execute_silent {e : Engine σ} {name : String}
    (silent : ∀ definition, e.store.get? name = some definition -> definition.Silent e.registry)
    (env other : Environment) (inputs extra : List (Value × Value)) (w : World σ) :
    execute e env name inputs extra w = execute e other name inputs extra w :=
  execute_spares (fun definition hd => (silent definition hd).spares) env other inputs extra w

/-- A step of each type that is built in, and in none of them the environment is named. -/
def silentSteps : List Step :=
  [{ Step.plain "a" "output" with
      config := .dict [(.str "who", .str "\x7b\x7b inputs.who \x7d\x7d")] },
    { Step.plain "b" "template" with
      config := .dict [(.str "template", .str "Hello \x7b\x7b inputs.who \x7d\x7d")] },
    { Step.plain "c" "transform" with
      config := .dict [(.str "expression", .str "inputs.who + '!'")] },
    { Step.plain "d" "conditional" with
      condition := .str "\x7b\x7b inputs.who \x7d\x7d != ''"
      ifTrue := some [Step.plain "e" "output"] }]

theorem execute_silent_steps :
    execute (withSteps silentSteps) [("SECRET", "hunter2")] "w" [(.str "who", .str "env.SECRET")] []
        dawn =
      execute (withSteps silentSteps) [] "w" [(.str "who", .str "env.SECRET")] [] dawn := by
  have literal : Step.OwnExpression
      { Step.plain "c" "transform" with
        config := .dict [(.str "expression", .str "inputs.who + '!'")] } := by
    refine ⟨trivial, fun entries v he hf => ?_⟩
    cases he
    cases hf
    exact ⟨by decide +kernel, .of_lacks (by decide +kernel) (by decide +kernel)⟩
  refine execute_silent (fun definition hd => ?_) _ _ _ _ _
  cases hd
  have every {Q : Step -> Prop} (a : Q silentSteps[0]) (b : Q silentSteps[1]) (c : Q silentSteps[2])
      (d : Q silentSteps[3]) (e : Q (Step.plain "e" "output")) :
      ∀ step ∈ Step.listTree silentSteps, Q step := by
    have all : ∀ step ∈ [silentSteps[0], silentSteps[1], silentSteps[2], silentSteps[3],
        Step.plain "e" "output"], Q step := by
      simp only [List.forall_mem_cons, a, b, c, d, e, true_and]
      exact nofun
    exact all
  refine ⟨?_, by decide +kernel, ?_⟩
  · exact every nofun nofun nofun nofun nofun
  · exact every nofun nofun (fun _ => literal) nofun nofun

/-- A transform step whose expression is put in from a token. -/
def tokenStep : Step :=
  { Step.plain "a" "transform" with
    config := .dict [(.str "expression", .str "\x7b\x7b inputs.x \x7d\x7d")] }

/-- The text that the first result of an execution gives, which the caller's input names. -/
def textShown (env : Environment) : Option String :=
  let done := execute (withSteps [tokenStep]) env "w" [(.str "x", .str "env.SECRET")] [] dawn
  let first := (done.1.1.ledger.get? dawn.fresh.issue.1).bind fun x => x.stepResults.head?
  match first.map fun r : StepResult => (r.seen done.2.objects).output.bare with
  | some (.str text) => some text
  | _ => none

/-- With a token in the expression, an input reads the environment, which nothing names. -/
theorem textShown_secret :
    tokenStep.strings.all (Text.Lacks "env" ·) ∧
      textShown [("SECRET", "hunter2")] = some "hunter2" ∧ textShown [] = none :=
  ⟨by decide +kernel, by decide +kernel, by decide +kernel⟩

end Engine

end Workflow
