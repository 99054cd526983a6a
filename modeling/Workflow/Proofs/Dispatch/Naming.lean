import Workflow.Proofs.Dispatch.Attempts

/-!
# Errors that name their step

What an executor raises says nothing of a step, or says it of its own step.  The first
policy that applies to it fills in what is missing, and from then on the error names the
step: the policies of the steps around it leave the name alone.
-/

namespace Workflow

open Effect (bind_error)

/-! ## What errors say of steps -/

/-- The error says of which step it is. -/
structure Error.Names (e : Error) (step : Step) : Prop where
  id : e.stepId = .str step.id
  type : ∀ f, e.kind.executor? = some f -> f.stepType = .str step.type

/-- The error says nothing of any step but this one, and the policy of the step applies to it. -/
structure Error.Fits (e : Error) (step : Step) : Prop where
  handled : e.isUnknownStepType = false
  id : e.stepId = .null ∨ e.stepId = .str step.id
  type : ∀ f, e.kind.executor? = some f -> f.stepType = .null ∨ f.stepType = .str step.type

/-- What was raised is no error of another step. -/
def Raised.Fits (r : Raised) (step : Step) : Prop :=
  ∀ e, r = .error e -> e.Fits step

theorem Raised.fits_error {e : Error} {step : Step} (h : e.Fits step) : (error e).Fits step := by
  rintro _ ⟨⟩
  exact h

theorem Raised.fits_fault (f : Fault) (step : Step) : (fault f).Fits step :=
  nofun

theorem Raised.fits_cancelled (step : Step) : cancelled.Fits step :=
  nofun

/-- The error says nothing of any step, and a policy applies to it. -/
structure Error.Untold (e : Error) : Prop where
  handled : e.isUnknownStepType = false
  id : e.stepId = .null
  type : ∀ f, e.kind.executor? = some f -> f.stepType = .null

theorem Error.Untold.fits {e : Error} (h : e.Untold) (step : Step) : e.Fits step :=
  ⟨h.handled, .inl h.id, fun f hf => .inl (h.type f hf)⟩

namespace Failure

@[simp] theorem known_null (text : String) : known .null text = .str text := rfl

@[simp] theorem known_str (s text : String) : known (.str s) text = .str s := rfl

theorem names_wrap (step : Step) (attempt : Int) (f : Fault) : (wrap step attempt f).Names step :=
  ⟨rfl, by rintro _ ⟨⟩; rfl⟩

/-- A policy fills in the step. -/
theorem names_assign_of_fits {step : Step} {e : Error} (h : e.Fits step) (attempt : Int) :
    (assign step attempt e).Names step := by
  constructor
  · rcases h.id with missing | same
    · simp only [assign, missing, known_null]
    · simp only [assign, same, known_str]
  · intro f carried
    obtain ⟨g, hg, rfl⟩ := executor?_assign carried
    rcases h.type g hg with missing | same
    · simp only [missing, known_null]
    · simp only [same, known_str]

/-- A policy leaves the step that is named alone. -/
theorem names_assign_of_names {step other : Step} {e : Error} (h : e.Names step) (attempt : Int) :
    (assign other attempt e).Names step := by
  constructor
  · simp only [assign, h.id, known_str]
  · intro f carried
    obtain ⟨g, hg, rfl⟩ := executor?_assign carried
    simp only [h.type g hg, known_str]

/-- A policy makes no error an executor's failure that was none, nor the other way round. -/
theorem isSome_executor?_assign (step : Step) (attempt : Int) (e : Error) :
    (assign step attempt e).kind.executor?.isSome = e.kind.executor?.isSome := by
  cases h : e.kind.executor? with
  | none => simp only [assign, h]
  | some f => simp only [assign, h, ErrorKind.executor?_withExecutor h, Option.isSome_some]

/-- The error that a policy applies to is the one that was raised, or the wrapping of a fault. -/
theorem classify?_eq_some {step : Step} {attempt : Int} {r : Raised} {e : Error}
    (h : classify? step attempt r = some e) :
    (∃ e', r = .error e' ∧ e = assign step attempt e') ∨ ∃ f, r = .fault f ∧ e = wrap step attempt f := by
  cases r with
  | cancelled => cases h
  | fault f => exact .inr ⟨f, rfl, (Option.some.inj h).symm⟩
  | error e' =>
      simp only [classify?] at h
      split at h
      · cases h
      · exact .inl ⟨e', rfl, (Option.some.inj h).symm⟩

theorem names_of_classify? {step : Step} {attempt : Int} {r : Raised} {e : Error}
    (h : classify? step attempt r = some e) (fits : r.Fits step) : e.Names step := by
  rcases classify?_eq_some h with ⟨e', rfl, rfl⟩ | ⟨f, rfl, rfl⟩
  · exact names_assign_of_fits (fits e' rfl) attempt
  · exact names_wrap step attempt f

theorem fits_timedOut (step : Step) (seconds : Float) : (timedOut step seconds).Fits step :=
  ⟨rfl, .inr rfl, by rintro _ ⟨⟩; exact .inr rfl⟩

end Failure

/-! ## What executors raise -/

theorem Expression.untold_expression (message : String) (suggestion source : Option String)
    (missing : Bool) : (Error.expression message suggestion source missing).Untold :=
  ⟨rfl, rfl, by rintro _ ⟨⟩; rfl⟩

theorem Expression.fits_of_evaluate {source : String} {scope : List (Value × Value)}
    {o o' : Objects} {e : Error} (h : evaluate source scope o = .error e o') (step : Step) :
    e.Fits step := by
  unfold evaluate at h
  split at h
  · cases h
  · next f _ _ =>
      cases h
      exact (untold_expression ..).fits step

namespace Template

theorem untold_template (message : String) (suggestion missing : Option String) :
    (Error.template message suggestion missing).Untold :=
  ⟨rfl, rfl, by rintro _ ⟨⟩; rfl⟩

theorem fits_of_render {source : String} {values : List (String × Value)} {o o' : Objects}
    {e : Error} (h : render source values o = .error e o') (step : Step) : e.Fits step := by
  unfold render at h
  split at h
  · cases h
    exact (untold_template ..).fits step
  · split at h
    · cases h
    · next f _ _ =>
        cases h
        unfold renderError
        split <;> exact (untold_template ..).fits step

end Template

namespace Builtin

variable {step : Step} {config : Value} {c : Context} {o o' : Objects} {r : Raised}

theorem raising_error {α : Type} {m : EStateM Error Objects α}
    (h : raising m o = .error r o') : ∃ e, r = .error e ∧ m o = .error e o' := by
  unfold raising at h
  split at h
  · cases h
  · next e _ ended =>
      cases h
      exact ⟨e, rfl, ended⟩

theorem fits_lacks (step : Step) (message : String) (suggestion : Option String) :
    (lacks step message suggestion).Fits step :=
  ⟨rfl, .inr rfl, by rintro _ ⟨⟩; exact .inr rfl⟩

theorem runTransform_fits (h : runTransform step config c o = .error r o') : r.Fits step := by
  unfold runTransform at h
  generalize fieldOf config "expression" = expression at h
  cases expression with
  | null =>
      cases h
      exact Raised.fits_error (fits_lacks ..)
  | str source =>
      dsimp only at h
      split at h
      · cases h
        exact Raised.fits_error (fits_lacks ..)
      · obtain ⟨e, rfl, ended⟩ := raising_error h
        exact Raised.fits_error (Expression.fits_of_evaluate ended step)
  | _ => cases h

theorem runTemplate_fits (h : runTemplate step config c o = .error r o') : r.Fits step := by
  have lacking {message : String} {suggestion : Option String}
      (h : (throw (.error (lacks step message suggestion)) : Work Value) o = .error r o') :
      r.Fits step := by
    cases h
    exact Raised.fits_error (fits_lacks ..)
  unfold runTemplate at h
  generalize fieldOf step.config "template" = template, config.bare = bare at h
  cases template with
  | str source =>
      cases bare with
      | dict entries =>
          rcases bind_error h with rendering | ⟨text, u, -, later⟩
          · obtain ⟨e, rfl, ended⟩ := raising_error rendering
            exact Raised.fits_error (Template.fits_of_render ended step)
          · cases hk : keyed (fieldOf config "key") text with
            | ok v => simp only [hk] at later; cases later
            | error f => simp only [hk] at later; cases later; exact Raised.fits_fault f step
      | _ => exact lacking h
  | _ => exact lacking h

/-- What a built-in executor raises is no error of another step. -/
theorem run_fits {b : Builtin} (h : b.run step config c o = .error r o') : r.Fits step := by
  cases b with
  | transform => exact runTransform_fits h
  | output => cases h
  | template => exact runTemplate_fits h

end Builtin

namespace Condition

variable {σ : Type} {c : Context} {w v : World σ} {r : Raised}

theorem fail_fits {α : Type} {e : Error} {step : Step} (fits : e.Fits step)
    (h : (Run.fail e : Run σ α) w = .error r v) : r.Fits step := by
  cases h
  exact Raised.fits_error fits

/-- A computation that logs a line and gives a value raises nothing. -/
theorem warned_ne_error {message : String} {answer : Bool}
    (h : (do Run.warn message; pure answer : Run σ Bool) w = .error r v) : False := by
  rcases bind_error h with logged | ⟨_, _, _, later⟩
  · cases logged
  · cases later

theorem decideBound_fits {text : String} {scope : List (Value × Value)} {b : Reference.Bound}
    (h : decideBound text scope b w = .error r v) (step : Step) : r.Fits step := by
  unfold decideBound at h
  cases hb : b.missing with
  | cons path rest =>
      simp only [hb] at h
      exact (warned_ne_error h).elim
  | nil =>
      simp only [hb] at h
      rcases bind_error h with tried | ⟨answer, u, tried, later⟩
      · exact (Run.tried_ne_error tried).elim
      · cases answer with
        | ok answer => cases later
        | error e =>
            obtain ⟨o, failed⟩ := Run.tried_failed tried
            have fits : e.Fits step := by
              rcases bind_error failed with evaluated | ⟨_, _, _, none⟩
              · exact Expression.fits_of_evaluate evaluated step
              · cases none
            dsimp only at later
            split at later
            · exact (warned_ne_error later).elim
            · exact fail_fits fits later

/-- What deciding a condition raises is told of no step. -/
theorem decide_fits {condition : Value} (h : decide c condition w = .error r v) (step : Step) :
    r.Fits step := by
  unfold decide at h
  cases condition with
  | null => exact fail_fits ((Expression.untold_expression ..).fits step) h
  | str text =>
      dsimp only at h
      split at h
      · exact fail_fits ((Expression.untold_expression ..).fits step) h
      · rcases bind_error h with looked | ⟨_, _, _, later⟩
        · cases looked
        · rcases bind_error later with bound | ⟨_, _, _, decided⟩
          · obtain ⟨f, rfl⟩ := Run.resolving_error bound
            exact Raised.fits_fault f step
          · exact decideBound_fits decided step
  | _ => cases h

end Condition

/-! ## Executors from outside -/

/-- The executors from outside raise no errors but such that are told of no step. -/
def Registry.Untold {σ : Type} (r : Registry σ) : Prop :=
  ∀ type p, r.handlers.get? type = some (.plugin p) ->
    ∀ step config c s e s', p.invoke step config c s = (.raised (.error e), s') -> e.Untold

end Workflow
