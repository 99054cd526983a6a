import Mathlib.Control.Basic
import Workflow.Definition.Loading
import Workflow.Proofs.Definition.Rules

/-!
# Well-formed definitions

The rules are checked on a dictionary, and its fields are read afterwards.  Both look at
the same steps, so what is read from steps that passed the rules follows them again,
unless an id or a type was given as bytes: the rules compare these as they are, and
reading takes them for the text they encode.
-/

namespace Workflow

/-- The steps of a list and of the branches below it follow the rules. -/
inductive WellFormed : List Step -> Prop where
  | intro {steps : List Step}
      (distinct : (steps.map Step.id).Nodup)
      (named : ∀ s ∈ steps, (Text.strip s.id).isEmpty = false ∧ (Text.strip s.type).isEmpty = false)
      (decided : ∀ s ∈ steps, s.isConditional = true ->
        s.condition.isNull = false ∧ s.condition.asText? ≠ some "")
      (branches : ∀ s ∈ steps, s.isConditional = true -> ∀ branch,
        s.ifTrue = some branch ∨ s.ifFalse = some branch -> WellFormed branch) :
      WellFormed steps

theorem WellFormed.distinct {steps : List Step} (h : WellFormed steps) :
    (steps.map Step.id).Nodup := by
  cases h with
  | intro distinct => exact distinct

/-- Steps, as they are written, give no id and no type as bytes; nor do the steps of branches. -/
inductive Textual : List Value -> Prop where
  | intro {items : List Value}
      (heads : ∀ entries, .dict entries ∈ items -> ∀ data,
        Rules.fieldOf entries "id" ≠ .bytes data ∧ Rules.fieldOf entries "type" ≠ .bytes data)
      (branches : ∀ entries, .dict entries ∈ items -> Rules.isConditional entries = true ->
        ∀ key ∈ branchKeys, ∀ inner, Rules.fieldOf entries key = .list inner -> Textual inner) :
      Textual items

/-! ## What reading gives -/

namespace Schema

theorem steps_eq_map (items : List Value) : steps items = items.map step := by
  induction items with
  | nil => simp [steps]
  | cons v rest ih => simp [steps, ih]

/-- The text of a value that is not bytes is what the value is written as. -/
theorem text_ok {v : Value} {s : String} (h : Coercion.text v = .ok s)
    (plain : ∀ data, v ≠ .bytes data) : v.text = s ∧ v.asText? = some s := by
  cases v with
  | str t => cases h; exact ⟨rfl, rfl⟩
  | markup t => cases h; exact ⟨rfl, rfl⟩
  | bytes data => exact (plain data rfl).elim
  | _ => cases h

theorem name_ok {v : Value} {s : String} (h : name v = .ok s) :
    Coercion.text v = .ok s ∧ (Text.strip s).isEmpty = false := by
  obtain ⟨t, ht, h⟩ := Checked.andThen_ok.1 h
  by_cases blank : (Text.strip t).isEmpty
  · simp [blank, Checked.flawed] at h
  · simp only [blank] at h
    cases h
    exact ⟨ht, by simpa using blank⟩

theorem required_ok {α : Type} {entries : List (Value × Value)} {key : String}
    {read : Value -> Checked α} {a : α} (h : required entries key read = .ok a) :
    read (Rules.fieldOf entries key) = .ok a := by
  unfold required field at h
  cases hf : Value.field? entries key with
  | none => simp [hf, Checked.under, Checked.flawed, Except.mapError] at h
  | some v =>
      rw [hf] at h
      simpa [Rules.fieldOf, hf] using Checked.under_ok.1 h

/-- A checked function of checked arguments. -/
theorem apply_of_ok {α β : Type} {f : Checked (α -> β)} {g : α -> β} {r : Checked α} {a : α}
    (hf : f = .ok g) (hr : r = .ok a) : f.apply r = .ok (g a) :=
  Checked.apply_ok.mpr ⟨g, a, hf, hr, rfl⟩

/-- The fields of a step that was read. -/
theorem stepOf_fields {entries : List (Value × Value)}
    {read : List (String × Checked (Option (List Step)))} {s : Step} :
    stepOf entries read = .ok s ↔
      required entries "id" name = .ok s.id ∧
      required entries "type" name = .ok s.type ∧
      field entries "description" (Coercion.optional Coercion.text) (.ok none) = .ok s.description ∧
      field entries "config" anything (.ok .null) = .ok s.config ∧
      field entries "on_error" errorPolicy (.ok .stop) = .ok s.onError ∧
      field entries "retry" (Coercion.optional retryPolicy) (.ok none) = .ok s.retry ∧
      field entries "timeout" (Coercion.optional timeout) (.ok none) = .ok s.timeout ∧
      field entries "condition" anything (.ok .null) = .ok s.condition ∧
      branchNamed read "if_true" = .ok s.ifTrue ∧
      branchNamed read "if_false" = .ok s.ifFalse ∧
      extraFields entries = .ok s.extra := by
  constructor
  · intro h
    obtain ⟨_, extra, h₁, hextra, rfl⟩ := Checked.apply_ok.1 h
    obtain ⟨_, ifFalse, h₂, hfalse, rfl⟩ := Checked.apply_ok.1 h₁
    obtain ⟨_, ifTrue, h₃, htrue, rfl⟩ := Checked.apply_ok.1 h₂
    obtain ⟨_, condition, h₄, hcondition, rfl⟩ := Checked.apply_ok.1 h₃
    obtain ⟨_, timeout, h₅, htimeout, rfl⟩ := Checked.apply_ok.1 h₄
    obtain ⟨_, retry, h₆, hretry, rfl⟩ := Checked.apply_ok.1 h₅
    obtain ⟨_, onError, h₇, hpolicy, rfl⟩ := Checked.apply_ok.1 h₆
    obtain ⟨_, config, h₈, hconfig, rfl⟩ := Checked.apply_ok.1 h₇
    obtain ⟨_, description, h₉, hdescription, rfl⟩ := Checked.apply_ok.1 h₈
    obtain ⟨_, type, h₁₀, htype, rfl⟩ := Checked.apply_ok.1 h₉
    obtain ⟨_, id, h₁₁, hid, rfl⟩ := Checked.apply_ok.1 h₁₀
    cases h₁₁
    exact ⟨hid, htype, hdescription, hconfig, hpolicy, hretry, htimeout, hcondition, htrue,
      hfalse, hextra⟩
  · rintro ⟨hid, htype, hdescription, hconfig, hpolicy, hretry, htimeout, hcondition, htrue,
      hfalse, hextra⟩
    -- steps contain steps, so a step is its fields only once it is taken apart
    cases s
    have head := apply_of_ok (apply_of_ok (f := Checked.of Step.mk) rfl hid) htype
    have described := apply_of_ok (apply_of_ok head hdescription) hconfig
    have guarded := apply_of_ok (apply_of_ok (apply_of_ok described hpolicy) hretry) htimeout
    have branched := apply_of_ok (apply_of_ok (apply_of_ok guarded hcondition) htrue) hfalse
    exact apply_of_ok branched hextra

/-- The fields of a definition that was read; there is at least one step. -/
theorem definition_fields {entries : List (Value × Value)} {d : Definition} :
    definition (.dict entries) = .ok d ↔
      (required entries "name" Coercion.text = .ok d.name ∧
        field entries "version" version (.ok none) = .ok d.version ∧
        field entries "description" (Coercion.optional Coercion.text) (.ok none) =
          .ok d.description ∧
        field entries "inputs" inputs (.ok []) = .ok d.inputs ∧
        field entries "outputs" (Coercion.optional (dictionary anything)) (.ok none) =
          .ok d.outputs ∧
        field entries "trigger" anything (.ok .null) = .ok d.trigger ∧
        required entries "steps" stepList = .ok d.steps ∧
        field entries "source_path" (Coercion.optional Coercion.text) (.ok none) =
          .ok d.sourcePath ∧
        field entries "loaded_at" (Coercion.optional Coercion.moment) (.ok none) =
          .ok d.loadedAt) ∧
      d.steps.isEmpty = false := by
  constructor
  · intro h
    obtain ⟨read, h, filled⟩ := Checked.andThen_ok.1 h
    obtain ⟨_, loadedAt, h₁, hloadedAt, rfl⟩ := Checked.apply_ok.1 h
    obtain ⟨_, sourcePath, h₂, hsourcePath, rfl⟩ := Checked.apply_ok.1 h₁
    obtain ⟨_, steps, h₃, hsteps, rfl⟩ := Checked.apply_ok.1 h₂
    obtain ⟨_, trigger, h₄, htrigger, rfl⟩ := Checked.apply_ok.1 h₃
    obtain ⟨_, outputs, h₅, houtputs, rfl⟩ := Checked.apply_ok.1 h₄
    obtain ⟨_, inputs, h₆, hinputs, rfl⟩ := Checked.apply_ok.1 h₅
    obtain ⟨_, description, h₇, hdescription, rfl⟩ := Checked.apply_ok.1 h₆
    obtain ⟨_, version, h₈, hversion, rfl⟩ := Checked.apply_ok.1 h₇
    obtain ⟨_, name, h₉, hname, rfl⟩ := Checked.apply_ok.1 h₈
    cases h₉
    unfold nonempty at filled
    split at filled
    · cases filled
    · next some_step =>
        cases filled
        exact ⟨⟨hname, hversion, hdescription, hinputs, houtputs, htrigger, hsteps, hsourcePath,
          hloadedAt⟩, by simpa using some_step⟩
  · rintro ⟨⟨hname, hversion, hdescription, hinputs, houtputs, htrigger, hsteps, hsourcePath,
      hloadedAt⟩, some_step⟩
    have head := apply_of_ok (apply_of_ok (f := Checked.of Definition.mk) rfl hname) hversion
    have declared := apply_of_ok (apply_of_ok (apply_of_ok head hdescription) hinputs) houtputs
    have filled := apply_of_ok (apply_of_ok declared htrigger) hsteps
    have read := apply_of_ok (apply_of_ok filled hsourcePath) hloadedAt
    exact Checked.andThen_ok.2 ⟨d, read, by simp [nonempty, some_step]⟩

theorem stepOf_ok {entries : List (Value × Value)}
    {read : List (String × Checked (Option (List Step)))} {s : Step}
    (h : stepOf entries read = .ok s) :
    name (Rules.fieldOf entries "id") = .ok s.id ∧
      name (Rules.fieldOf entries "type") = .ok s.type ∧
      s.condition = Rules.fieldOf entries "condition" ∧
      branchNamed read "if_true" = .ok s.ifTrue ∧ branchNamed read "if_false" = .ok s.ifFalse := by
  obtain ⟨hid, htype, -, -, -, -, -, hcondition, htrue, hfalse, -⟩ := stepOf_fields.mp h
  refine ⟨required_ok hid, required_ok htype, ?_, htrue, hfalse⟩
  unfold field at hcondition
  cases hf : Value.field? entries "condition" with
  | none =>
      rw [hf] at hcondition
      simpa [Rules.fieldOf, hf] using hcondition.symm
  | some v =>
      rw [hf] at hcondition
      have kept := Except.ok.inj (Checked.under_ok.1 hcondition)
      simp [Rules.fieldOf, hf, kept]

/-- A branch is read from the first field of its name. -/
theorem lookup_branches (entries : List (Value × Value)) {key : String} (h : key ∈ branchKeys) :
    (branches entries).lookup key = (Value.field? entries key).map branch := by
  induction entries with
  | nil => simp [branches, Value.field?]
  | cons e rest ih =>
      obtain ⟨k, v⟩ := e
      cases k with
      | str name =>
          by_cases same : name = key
          · subst same
            have known : (name == "if_true" || name == "if_false") = true := by
              simpa [branchKeys] using h
            simp [branches, Value.field?, known]
          · by_cases known : (name == "if_true" || name == "if_false") = true
            · have other : (key == name) = false := by simpa using Ne.symm same
              simp [branches, Value.field?, known, same, other, List.lookup_cons, ih]
            · simp [branches, Value.field?, known, same, ih]
      | _ => simpa [branches, Value.field?] using ih

end Schema

/-! ## From the rules to the definition -/

open Rules Schema

/-- The step that was read from an item of a list that passed. -/
theorem step_read {items : List Value} {steps : List Step}
    (read : items.map Schema.step = steps.map .ok) {s : Step} (hs : s ∈ steps) :
    ∃ v ∈ items, Schema.step v = .ok s := by
  have mem : (.ok s : Checked Step) ∈ items.map Schema.step := by
    rw [read]
    exact List.mem_map_of_mem hs
  exact List.mem_map.mp mem

/-- Only dictionaries are read as steps. -/
theorem step_ok {v : Value} {s : Step} (h : Schema.step v = .ok s) :
    ∃ entries, v = .dict entries ∧ stepOf entries (branches entries) = .ok s := by
  cases v with
  | dict entries => exact ⟨entries, rfl, by simpa [Schema.step] using h⟩
  | _ => simp [Schema.step, Checked.flawed] at h

/-- The ids that are read are those that the rules compared. -/
theorem ids_read {items : List Value} {steps : List Step}
    (read : items.map Schema.step = steps.map .ok)
    (plain : ∀ entries, .dict entries ∈ items -> ∀ data, fieldOf entries "id" ≠ .bytes data) :
    steps.map Step.id = items.map idOf := by
  induction items generalizing steps with
  | nil =>
      have none_read : steps = [] := by simpa using read.symm
      rw [none_read]
      rfl
  | cons v rest ih =>
      cases steps with
      | nil => cases read
      | cons s more =>
          simp only [List.map_cons, List.cons.injEq] at read
          obtain ⟨hs, read⟩ := read
          obtain ⟨entries, rfl, hstep⟩ := step_ok hs
          have named := (name_ok (stepOf_ok hstep).1).1
          have same := (text_ok named (plain entries (by simp))).1
          have tail := ih read fun es hes => plain es (by simp [hes])
          simp [idOf, same, tail]

/-- A step that is read as conditional was one for the rules. -/
theorem conditional_read {entries : List (Value × Value)} {s : Step}
    (h : stepOf entries (branches entries) = .ok s)
    (plain : ∀ data, fieldOf entries "type" ≠ .bytes data) :
    s.isConditional = isConditional entries := by
  have typed := (name_ok (stepOf_ok h).2.1).1
  simp only [Step.isConditional, Rules.isConditional, (text_ok typed plain).2]
  simp

/-- A branch that is read is a list of steps, or was left out. -/
theorem branch_read {entries : List (Value × Value)} {key : String} (hkey : key ∈ branchKeys)
    {branch : List Step} (h : branchNamed (branches entries) key = .ok (some branch))
    {inner : List Value} (list : fieldOf entries key = .list inner) :
    inner.map Schema.step = branch.map .ok := by
  unfold branchNamed at h
  rw [lookup_branches entries hkey] at h
  cases hf : Value.field? entries key with
  | none => simp [fieldOf, hf] at list
  | some v =>
      have value : v = .list inner := by simpa [fieldOf, hf] using list
      rw [hf, value] at h
      have read := Checked.under_ok.1 h
      simp only [Schema.branch] at read
      cases hall : Checked.all (Checked.indexed 0 (steps inner)) with
      | error ps => rw [hall] at read; cases read
      | ok xs =>
          rw [hall] at read
          cases read
          rw [← steps_eq_map]
          exact Checked.indexed_ok.1 (Checked.all_ok.1 hall)

theorem branch_absent {entries : List (Value × Value)} {key : String} (hkey : key ∈ branchKeys)
    (absent : fieldOf entries key = .null) {branch : List Step} :
    branchNamed (branches entries) key ≠ .ok (some branch) := by
  unfold branchNamed
  rw [lookup_branches entries hkey]
  cases hf : Value.field? entries key with
  | none => simp
  | some v =>
      have value : v = .null := by simpa [fieldOf, hf] using absent
      subst value
      simp [Schema.branch, Checked.under, Except.mapError]

/-- What is read from steps that the rules accept follows the rules. -/
theorem wellFormed_of_good {items : List Value} (textual : Textual items) {steps : List Step}
    (good : Good items) (read : items.map Schema.step = steps.map .ok) : WellFormed steps := by
  induction textual generalizing steps with
  | @intro items heads _ ih =>
      refine .intro ?_ ?_ ?_ ?_
      · rw [ids_read read fun entries he data => (heads entries he data).1]
        exact good.distinct
      · intro s hs
        obtain ⟨v, hv, hstep⟩ := step_read read hs
        obtain ⟨entries, rfl, hstep⟩ := step_ok hstep
        exact ⟨(name_ok (stepOf_ok hstep).1).2, (name_ok (stepOf_ok hstep).2.1).2⟩
      · intro s hs conditional
        obtain ⟨v, hv, hstep⟩ := step_read read hs
        obtain ⟨entries, rfl, hstep⟩ := step_ok hstep
        rw [conditional_read hstep fun data => (heads entries hv data).2] at conditional
        rw [(stepOf_ok hstep).2.2.1]
        exact good.decided entries hv conditional
      · intro s hs conditional branch chosen
        obtain ⟨v, hv, hstep⟩ := step_read read hs
        obtain ⟨entries, rfl, hstep⟩ := step_ok hstep
        rw [conditional_read hstep fun data => (heads entries hv data).2] at conditional
        have follows (key : String) (hkey : key ∈ branchKeys)
            (named : branchNamed (branches entries) key = .ok (some branch)) :
            WellFormed branch := by
          rcases good.forked entries hv conditional key hkey with absent | ⟨inner, list⟩
          · exact (branch_absent hkey absent named).elim
          · have below := good.branches entries hv inner ⟨conditional, key, hkey, list⟩
            exact ih entries hv conditional key hkey inner list below
              (branch_read hkey named list)
        rcases chosen with chosen | chosen
        · exact follows "if_true" (by simp [branchKeys]) (chosen ▸ (stepOf_ok hstep).2.2.2.1)
        · exact follows "if_false" (by simp [branchKeys]) (chosen ▸ (stepOf_ok hstep).2.2.2.2)

end Workflow
