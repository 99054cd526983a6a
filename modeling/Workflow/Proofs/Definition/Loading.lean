import Mathlib.Data.List.Nodup
import Workflow.Proofs.Definition.WellFormed
import Workflow.Proofs.Execution.Causality

/-!
# Loaded definitions

A definition that is loaded follows the rules, whatever it is written as.  Its steps
have ids of their own, so an execution of it never meets a step that is recorded already.
-/

namespace Workflow

namespace Schema

theorem definition_ok {entries : List (Value × Value)} {d : Definition}
    (h : definition (.dict entries) = .ok d) :
    stepList (Rules.fieldOf entries "steps") = .ok d.steps ∧ d.steps ≠ [] := by
  obtain ⟨⟨-, -, -, -, -, -, steps, -, -⟩, some_step⟩ := definition_fields.mp h
  exact ⟨required_ok steps, by simpa using some_step⟩

end Schema

namespace Loading

/-- The steps that loading reads from a value, once the environment is put in. -/
def stepsOf (env : Environment) (v : Value) : List Value :=
  match v with
  | .dict entries =>
      match Environment.substituteEntries env entries with
      | .ok entries =>
          match Rules.fieldOf entries "steps" with
          | .list items => items
          | _ => []
      | .error _ => []
  | _ => []

theorem fieldOf_withSourcePath (source : Option String) (entries : List (Value × Value))
    {name : String} (h : "source_path" ≠ name) :
    Rules.fieldOf (withSourcePath source entries) name = Rules.fieldOf entries name := by
  cases source with
  | none => rfl
  | some s => simp only [withSourcePath, Rules.fieldOf, Value.field?_putField_of_ne entries _ h]

/-- Loading reads steps that the rules accept. -/
theorem ofValue_ok {env : Environment} {source : Option String} {v : Value} {d : Definition}
    (h : (ofValue env source v).result = .ok d) :
    d.steps ≠ [] ∧ Rules.Good (stepsOf env v) ∧
      (stepsOf env v).map Schema.step = d.steps.map .ok := by
  cases v with
  | dict entries =>
      simp only [ofValue] at h
      cases hs : Environment.substituteEntries env entries with
      | error e => simp [hs, Loaded.stopped] at h
      | ok resolved =>
          simp only [hs, ofResolved] at h
          cases hc : Rules.check (some (label source)) resolved with
          | error r => simp [hc, Loaded.stopped] at h
          | ok ws =>
              simp only [hc] at h
              obtain ⟨_, items, list, _, good⟩ := Rules.accepted_of_check hc
              have steps : stepsOf env (.dict entries) = items := by simp only [stepsOf, hs, list]
              cases hd : Schema.definition (.dict (withSourcePath source resolved)) with
              | error ps => simp [hd, Except.mapError] at h
              | ok read =>
                  rw [hd] at h
                  cases h
                  obtain ⟨all, nonempty⟩ := Schema.definition_ok hd
                  rw [fieldOf_withSourcePath source resolved (by decide), list] at all
                  rw [steps]
                  refine ⟨nonempty, good, ?_⟩
                  rw [← Schema.steps_eq_map]
                  exact Checked.indexed_ok.1 (Checked.all_ok.1 all)
  | _ => simp [ofValue, Loaded.stopped] at h

end Loading

namespace Engine

variable {σ : Type}

theorem launch?_steps {e : Engine σ} {env : Environment} {name : String}
    {inputs extra : List (Value × Value)} {w : World σ} {l : Launch σ}
    (h : launch? e env name inputs extra w = some l) :
    ∃ d, e.store.get? name = some d ∧ l.definition.steps = d.steps := by
  unfold launch? prepare at h
  cases hs : e.store.get? name with
  | none => simp [hs] at h
  | some d =>
      simp only [hs] at h
      cases hc : checkInputs inputs (adoptDefaults w.objects d.inputs).1 with
      | error problem => simp [hc, Except.map] at h
      | ok given =>
          simp only [hc, Except.map] at h
          cases h
          exact ⟨d, rfl, rfl⟩

/-- Steps with ids of their own are recorded without complaint. -/
theorem record_of_distinct {e : Engine σ} {env : Environment} {name : String}
    {inputs extra : List (Value × Value)} {w : World σ} {d : Definition}
    (stored : e.store.get? name = some d) (distinct : (d.steps.map Step.id).Nodup)
    {v : Visit σ} (hv : v ∈ dispatches e env name inputs extra w) (r : StepRecord) :
    ∃ c, v.progress.context.record v.step.id r = .ok c := by
  obtain ⟨i, hi⟩ := List.mem_iff_getElem?.mp hv
  cases hl : launch? e env name inputs extra w with
  | none => simp [dispatches, hl] at hv
  | some l =>
      obtain ⟨m, hm, steps⟩ := launch?_steps hl
      rw [stored] at hm
      cases hm
      obtain ⟨kept, _, _, id, _⟩ := execute_of_launch hl
      rw [id] at kept
      obtain ⟨found, _, seen⟩ := dispatches_see hl kept hi
      rw [steps] at found
      obtain ⟨passed, results, front, _⟩ :=
        advanceAll_results e.dispatcher ⟨l.context, []⟩ l.definition.steps l.world
      rw [runToEnd_results, results, List.nil_append] at seen
      have unseen : v.step.id ∉ (passed.take i).map StepResult.stepId := by
        intro before
        obtain ⟨r, hr, same⟩ := List.mem_map.mp before
        obtain ⟨j, hj, rfl⟩ := List.mem_take_iff_getElem.mp hr
        have short : j < passed.length := by omega
        have long : j < d.steps.length := by
          have := front.length_le
          simp only [List.length_map, steps] at this
          omega
        have heading : passed[j].heading = d.steps[j].heading := by
          have := front.getElem (i := j) (by simpa using short)
          simpa [steps] using this
        have jth : (d.steps.map Step.id)[j]? = some v.step.id := by
          rw [List.getElem?_map, List.getElem?_eq_getElem long, ← same]
          exact congrArg (fun heading => some heading.1) heading.symm
        have ith : (d.steps.map Step.id)[i]? = some v.step.id := by
          rw [List.getElem?_map, found]
          rfl
        obtain ⟨_, hj⟩ := List.getElem?_eq_some_iff.mp jth
        obtain ⟨_, hi⟩ := List.getElem?_eq_some_iff.mp ith
        have := distinct.getElem_inj_iff.mp (hj.trans hi.symm)
        omega
      have names : v.progress.context.records.names = (passed.take i).map StepResult.stepId := by
        have := congrArg (List.map Prod.fst) seen
        simpa [Context.endings, Table.names, StepResult.ending, Function.comp_def] using this
      have fresh : v.progress.context.records.has v.step.id = false := by
        rw [Table.has_eq_false_iff, names]
        exact unseen
      exact ⟨_, by simp [Context.record, fresh]; rfl⟩

end Engine

namespace Loading

/--
A definition that is loaded from steps without ids or types in bytes is well formed: it
has a step, its lists of steps follow the rules, and wherever it is stored, an execution
never meets a step that is recorded already.
-/
theorem ofValue_wellFormed {env : Environment} {source : Option String} {v : Value}
    {d : Definition} (h : (ofValue env source v).result = .ok d)
    (textual : Textual (stepsOf env v)) :
    d.steps ≠ [] ∧ WellFormed d.steps ∧
      ∀ {σ : Type} (e : Engine σ) (name : String) (m : Definition),
        e.store.get? name = some m -> m.steps = d.steps ->
        ∀ env inputs extra w, ∀ visit ∈ Engine.dispatches e env name inputs extra w,
          ∀ r, ∃ c, visit.progress.context.record visit.step.id r = .ok c := by
  obtain ⟨nonempty, good, read⟩ := ofValue_ok h
  have formed := wellFormed_of_good textual good read
  refine ⟨nonempty, formed, fun e name m stored same env inputs extra w visit hv r => ?_⟩
  exact Engine.record_of_distinct stored (same ▸ formed.distinct) hv r

/-- A step of which only the id and the type are written. -/
def written (id type : Value) : Value :=
  .record [("id", id), ("type", type)]

/-- A definition of two steps, of which one has a branch. -/
def branching : Value :=
  .record [("name", .str "w"), ("steps", .list [written (.str "a") (.str "output"),
    .record [("id", .str "b"), ("type", .str "conditional"), ("condition", .str "true"),
      ("if_true", .list [written (.str "a") (.str "output")])]])]

theorem textual_branching : Textual (stepsOf [] branching) := by
  have steps : stepsOf [] branching = [written (.str "a") (.str "output"),
      .record [("id", .str "b"), ("type", .str "conditional"), ("condition", .str "true"),
        ("if_true", .list [written (.str "a") (.str "output")])]] := by
    with_unfolding_all rfl
  have leaf : Textual [written (.str "a") (.str "output")] := by
    refine .intro ?_ ?_
    · intro entries he data
      cases List.mem_singleton.mp he
      exact ⟨nofun, nofun⟩
    · intro entries he conditional
      cases List.mem_singleton.mp he
      exact absurd conditional (by decide)
  rw [steps]
  refine .intro ?_ ?_
  · intro entries he data
    rcases List.mem_cons.mp he with first | second
    · cases first
      exact ⟨nofun, nofun⟩
    · cases List.mem_singleton.mp second
      exact ⟨nofun, nofun⟩
  · intro entries he conditional key hkey inner list
    rcases List.mem_cons.mp he with first | second
    · cases first
      exact absurd conditional (by decide)
    · cases List.mem_singleton.mp second
      simp only [branchKeys, List.mem_cons, List.not_mem_nil, or_false] at hkey
      rcases hkey with rfl | rfl
      · cases list
        exact leaf
      · cases list

theorem ofValue_wellFormed_branching :
    ∃ d, (ofValue [] none branching).result = .ok d ∧ d.stepIds = ["a", "b"] ∧
      WellFormed d.steps := by
  have ids : (ofValue [] none branching).result.toOption.map Definition.stepIds =
      some ["a", "b"] := by decide +kernel
  cases h : (ofValue [] none branching).result with
  | error r => simp [h, Except.toOption] at ids
  | ok d =>
      exact ⟨d, rfl, by simpa [h, Except.toOption] using ids,
        (ofValue_wellFormed h textual_branching).2.1⟩

/-- A definition of two steps whose ids differ as they are written and are read alike. -/
def twins : Value :=
  .record [("name", .str "w"), ("steps", .list [written (.str "a") (.str "output"),
    written (.bytes [97]) (.str "output")])]

theorem ofValue_twins :
    ∃ d, (ofValue [] none twins).result = .ok d ∧ ¬ WellFormed d.steps := by
  have ids : (ofValue [] none twins).result.toOption.map Definition.stepIds =
      some ["a", "a"] := by decide +kernel
  cases h : (ofValue [] none twins).result with
  | error r => simp [h, Except.toOption] at ids
  | ok d =>
      refine ⟨d, rfl, fun formed => ?_⟩
      have same : d.steps.map Step.id = ["a", "a"] := by
        simpa [h, Except.toOption, Definition.stepIds] using ids
      have distinct := formed.distinct
      rw [same] at distinct
      exact absurd distinct (by decide)

/-- What a text holds is loaded as the dictionary it is parsed to. -/
theorem ofText_ok {env : Environment} {format : Option Format} {source : Option String}
    {content : String} {d : Definition} (h : (ofText env format source content).result = .ok d) :
    ∃ entries, parse format (label source) content = .ok entries ∧
      (ofValue env source (.dict entries)).result = .ok d := by
  unfold ofText at h
  cases hp : parse format (label source) content with
  | error r => simp [hp, Loaded.stopped] at h
  | ok entries =>
      rw [hp] at h
      exact ⟨entries, rfl, h⟩

end Loading

end Workflow
