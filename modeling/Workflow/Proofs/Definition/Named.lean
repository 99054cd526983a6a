import Workflow.Proofs.Definition.Loading
import Workflow.Proofs.Execution.Interference

/-!
# Steps with ids

Reading refuses a step with a blank id, at every depth.  So each step of a definition that
was loaded has an id by which a failure can name it.
-/

namespace Workflow

namespace Step

theorem mem_tree_self (step : Step) : step ∈ step.tree := by
  cases step
  exact List.mem_cons_self

theorem mem_listTree {step sub : Step} {steps : List Step} (inside : step ∈ steps)
    (below : sub ∈ step.tree) : sub ∈ listTree steps := by
  induction steps with
  | nil => cases inside
  | cons s rest ih =>
      rcases List.mem_cons.mp inside with rfl | later
      · exact List.mem_append_left _ below
      · exact List.mem_append_right _ (ih later)

/-- The steps below a step are itself and those of its branches. -/
theorem mem_tree {step sub : Step} :
    sub ∈ step.tree ↔ sub = step ∨ sub ∈ branchTree step.ifTrue ∨ sub ∈ branchTree step.ifFalse := by
  cases step
  simp only [tree, List.mem_cons, List.mem_append]

end Step

/-- Each step of a definition has an id. -/
def Definition.Named (definition : Definition) : Prop :=
  ∀ step ∈ definition.everyStep, step.id ≠ ""

namespace Schema

theorem name_ne_empty {v : Value} {s : String} (h : name v = .ok s) : s ≠ "" := by
  rintro rfl
  exact absurd (name_ok h).2 (by decide)

mutual

/-- A step that is read has an id, and so have the steps of its branches. -/
theorem step_named (v : Value) {s : Step} (h : step v = .ok s) : ∀ t ∈ s.tree, t.id ≠ "" := by
  match v with
  | .dict entries =>
      simp only [step] at h
      obtain ⟨id, -, -, ifTrue, ifFalse⟩ := stepOf_ok h
      have inside {key : String} {b : Option (List Step)}
          (read : branchNamed (branches entries) key = .ok b) :
          ∀ t ∈ Step.branchTree b, t.id ≠ "" := by
        unfold branchNamed at read
        split at read
        · cases read
          nofun
        · next r found =>
            obtain ⟨front, back, split, -⟩ := List.lookup_eq_some_iff.mp found
            refine branches_named entries key b ?_
            rw [split, ← Checked.under_ok.mp read]
            exact List.mem_append_right _ List.mem_cons_self
      intro t below
      rcases Step.mem_tree.mp below with rfl | below | below
      · exact name_ne_empty id
      · exact inside ifTrue t below
      · exact inside ifFalse t below

theorem branches_named (entries : List (Value × Value)) (key : String) (b : Option (List Step))
    (h : (key, .ok b) ∈ branches entries) : ∀ t ∈ Step.branchTree b, t.id ≠ "" := by
  match entries with
  | [] => cases h
  | (k, v) :: rest =>
      have later (below : (key, .ok b) ∈ branches rest) := branches_named rest key b below
      cases k with
      | str name =>
          simp only [branches] at h
          split at h
          · rcases List.mem_cons.mp h with here | below
            · exact branch_named v (Prod.mk.inj here).2.symm
            · exact later below
          · exact later h
      | _ =>
          simp only [branches] at h
          exact later h

theorem branch_named (v : Value) {b : Option (List Step)} (h : branch v = .ok b) :
    ∀ t ∈ Step.branchTree b, t.id ≠ "" := by
  have listed {items : List Value} {b : Option (List Step)}
      (h : (Checked.all (Checked.indexed 0 (steps items))).map some = .ok b) :
      ∃ ss, b = some ss ∧ steps items = ss.map .ok := by
    cases all : Checked.all (Checked.indexed 0 (steps items)) with
    | error ps => rw [all] at h; cases h
    | ok ss =>
        rw [all] at h
        cases h
        exact ⟨ss, rfl, Checked.indexed_ok.mp (Checked.all_ok.mp all)⟩
  match v with
  | .null =>
      cases h
      nofun
  | .list items | .tuple items =>
      obtain ⟨ss, rfl, read⟩ := listed h
      exact steps_named items read

theorem steps_named (items : List Value) {ss : List Step} (h : steps items = ss.map .ok) :
    ∀ t ∈ Step.listTree ss, t.id ≠ "" := by
  match items, ss with
  | [], [] => nofun
  | v :: rest, s :: more =>
      simp only [steps, List.map_cons, List.cons.injEq] at h
      intro t below
      rcases List.mem_append.mp below with first | later
      · exact step_named v h.1 t first
      · exact steps_named rest h.2 t later

end

end Schema

/-- Each step of a definition that was loaded has an id. -/
theorem Loading.ofValue_named {env : Environment} {source : Option String} {v : Value}
    {d : Definition} (h : (ofValue env source v).result = .ok d) : d.Named := by
  obtain ⟨-, -, read⟩ := ofValue_ok h
  rw [← Schema.steps_eq_map] at read
  exact Schema.steps_named _ read

end Workflow
