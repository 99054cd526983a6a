import Mathlib.Data.List.Nodup
import Workflow.Definition.Rules

/-!
# What the rules accept

A list of steps is checked in passes: all heads, the texts of all ids, repeated ids, and
then one step after another with the lists below it.  Whether it is accepted does not
depend on that order.  Each pass settles a condition of its own, and the conditions of
consecutive passes add up to the predicate `Good`.  The order only decides which one of
several broken rules is reported, and whether a value without a text is met before one.
-/

namespace Workflow

/-- The fields that hold the branches of a step. -/
def branchKeys : List String :=
  ["if_true", "if_false"]

namespace Rules

/-! ## Accepted definitions -/

/-- A dictionary with an id and a type. -/
def IsHead (v : Value) : Prop :=
  ∃ entries, v = .dict entries ∧ (fieldOf entries "id").truthy = true ∧
    (fieldOf entries "type").truthy = true

/-- What the id of a step is written as. -/
def idOf : Value -> String
  | .dict entries => (fieldOf entries "id").text
  | _ => ""

/-- A conditional step has a condition. -/
def Decided (entries : List (Value × Value)) : Prop :=
  isConditional entries = true ->
    (fieldOf entries "condition").isNull = false ∧ (fieldOf entries "condition").asText? ≠ some ""

/-- A list is one of the branches of a conditional step. -/
def IsBranch (entries : List (Value × Value)) (inner : List Value) : Prop :=
  isConditional entries = true ∧ ∃ key ∈ branchKeys, fieldOf entries key = .list inner

/-- The branches of a conditional step are lists, if it has them. -/
def Forked (entries : List (Value × Value)) : Prop :=
  isConditional entries = true -> ∀ key ∈ branchKeys,
    fieldOf entries key = .null ∨ ∃ inner, fieldOf entries key = .list inner

/-- The steps of a list, and of the lists below it, are accepted. -/
inductive Good : List Value -> Prop where
  | intro {items : List Value}
      (heads : ∀ v ∈ items, IsHead v)
      (distinct : (items.map idOf).Nodup)
      (decided : ∀ entries, .dict entries ∈ items -> Decided entries)
      (forked : ∀ entries, .dict entries ∈ items -> Forked entries)
      (branches : ∀ entries, .dict entries ∈ items -> ∀ inner, IsBranch entries inner -> Good inner) :
      Good items

/-- A definition with a name and steps that are accepted. -/
def Accepted (entries : List (Value × Value)) : Prop :=
  (fieldOf entries "name").truthy = true ∧
    ∃ items, fieldOf entries "steps" = .list items ∧ items ≠ [] ∧ Good items

/-- A value has a text. -/
def HasText (v : Value) : Prop :=
  ∃ text, v.textOf = .ok text

/-- The policy of a step with settings for a retry has a text, unless it is to retry. -/
def PolicyHasText (entries : List (Value × Value)) : Prop :=
  fieldOf entries "retry" ≠ .null ->
    (policyOf entries).asText? ≠ some ErrorPolicy.retry.name -> HasText (policyOf entries)

/-- The values that the check of a list and of the lists below it may write have texts. -/
inductive Expressible : List Value -> Prop where
  | intro {items : List Value}
      (ids : ∀ entries, .dict entries ∈ items -> HasText (fieldOf entries "id"))
      (policies : ∀ entries, .dict entries ∈ items -> PolicyHasText entries)
      (branches : ∀ entries, .dict entries ∈ items -> ∀ inner, IsBranch entries inner ->
        Expressible inner) :
      Expressible items

/-- The values that the check of a definition may write have texts. -/
def Expressed (entries : List (Value × Value)) : Prop :=
  ∀ items, fieldOf entries "steps" = .list items -> Expressible items

section Parts

variable {items : List Value}

theorem Good.heads (h : Good items) : ∀ v ∈ items, IsHead v := by
  cases h with
  | intro heads => exact heads

theorem Good.distinct (h : Good items) : (items.map idOf).Nodup := by
  cases h with
  | intro _ distinct => exact distinct

theorem Good.decided (h : Good items) : ∀ entries, .dict entries ∈ items -> Decided entries := by
  cases h with
  | intro _ _ decided => exact decided

theorem Good.forked (h : Good items) : ∀ entries, .dict entries ∈ items -> Forked entries := by
  cases h with
  | intro _ _ _ forked => exact forked

theorem Good.branches (h : Good items) :
    ∀ entries, .dict entries ∈ items -> ∀ inner, IsBranch entries inner -> Good inner := by
  cases h with
  | intro _ _ _ _ branches => exact branches

end Parts

/-! ## What a check settles -/

/--
A check settles whether something is good and whether it is expressible: it passes when
both hold, a broken rule shows that the one does not hold, and a fault that the other
does not.
-/
def Settles {α : Type} (r : Except Failure α) (good expressible : Prop) : Prop :=
  match r with
  | .ok _ => good ∧ expressible
  | .error (.broken _) => ¬ good
  | .error (.fault _) => ¬ expressible

namespace Settles

variable {α β : Type} {r : Except Failure α} {g g' t t' : Prop}

theorem ok (a : α) : Settles (.ok a) True True :=
  ⟨trivial, trivial⟩

theorem broken {rule : Rule} {message : String} (h : ¬ g) :
    Settles (Rules.broken rule message : Except Failure α) g t :=
  h

theorem congr (h : Settles r g t) (good : g ↔ g') (expressible : t ↔ t') : Settles r g' t' := by
  rw [← propext good, ← propext expressible]
  exact h

/-- What is checked first and what is checked after it passed. -/
theorem bind {k : α -> Except Failure β} (hr : Settles r g t)
    (hk : ∀ a, r = .ok a -> Settles (k a) g' t') : Settles (r >>= k) (g ∧ g') (t ∧ t') := by
  cases r with
  | error e =>
      cases e with
      | broken _ => exact fun both => hr both.1
      | fault _ => exact fun both => hr both.1
  | ok a =>
      have later := hk a rfl
      change Settles (k a) _ _
      cases h : k a with
      | ok b =>
          rw [h] at later
          exact ⟨⟨hr.1, later.1⟩, hr.2, later.2⟩
      | error e =>
          rw [h] at later
          cases e with
          | broken _ => exact fun both => later both.2
          | fault _ => exact fun both => later both.2

/-- The same check of one element after another. -/
theorem mapM {f : α -> Except Failure β} {good expressible : α -> Prop} {xs : List α}
    (h : ∀ x ∈ xs, Settles (f x) (good x) (expressible x)) :
    Settles (xs.mapM f) (∀ x ∈ xs, good x) (∀ x ∈ xs, expressible x) := by
  induction xs with
  | nil => exact (ok []).congr (by simp) (by simp)
  | cons x rest ih =>
      rw [List.mapM_cons]
      have first := h x List.mem_cons_self
      have later := ih fun y hy => h y (List.mem_cons_of_mem x hy)
      refine (first.bind fun y _ => later.bind fun ys _ => ok (y :: ys)).congr ?_ ?_
      · simp
      · simp

end Settles

/-- Elements that all pass give one result each, in the same order. -/
theorem mapM_ok {ε α β : Type} {f : α -> Except ε β} {xs : List α} {ys : List β}
    (h : xs.mapM f = .ok ys) : xs.map f = ys.map .ok := by
  induction xs generalizing ys with
  | nil =>
      cases h
      rfl
  | cons x rest ih =>
      rw [List.mapM_cons] at h
      cases hx : f x with
      | error e =>
          rw [hx] at h
          cases h
      | ok y =>
          rw [hx] at h
          cases hrest : rest.mapM f with
          | error e =>
              rw [hrest] at h
              cases h
          | ok more =>
              rw [hrest] at h
              cases h
              rw [List.map_cons, hx, ih hrest, List.map_cons]

/-! ## Texts -/

theorem textOf_text {v : Value} {text : String} (h : v.textOf = .ok text) : v.text = text := by
  unfold Value.textOf at h
  cases hu : Value.strictUse v with
  | error f =>
      rw [hu] at h
      cases h
  | ok u =>
      rw [hu] at h
      change (if v.exceedsDigits then _ else _) = _ at h
      split at h
      · cases h
      · cases h
        rfl

theorem shown_text {v : Value} {text : String} (h : shown v = .ok text) : v.text = text := by
  unfold shown at h
  cases hv : v.textOf with
  | error f =>
      rw [hv] at h
      cases h
  | ok s =>
      rw [hv] at h
      cases h
      exact textOf_text hv

theorem shown_settles (v : Value) : Settles (shown v) True (HasText v) := by
  unfold shown HasText
  cases v.textOf with
  | error f => exact nofun
  | ok text => exact ⟨trivial, text, rfl⟩

/-! ## One list -/

section Heads

variable {items : List Value} {heads : List (List (Value × Value))}

/-- The id of a head is written only when its type is missing. -/
theorem checkHead_settles (v : Value) :
    Settles (checkHead v) (IsHead v)
      (∀ entries, v = .dict entries -> (fieldOf entries "id").truthy = true ->
        (fieldOf entries "type").truthy = false -> HasText (fieldOf entries "id")) := by
  cases v with
  | dict entries =>
      simp only [checkHead]
      cases hid : (fieldOf entries "id").truthy with
      | false =>
          refine Settles.broken ?_
          rintro ⟨_, ⟨⟩, id, _⟩
          simp [hid] at id
      | true =>
          cases htype : (fieldOf entries "type").truthy with
          | false =>
              have typeless : ¬ IsHead (.dict entries) := by
                rintro ⟨_, ⟨⟩, _, type⟩
                simp [htype] at type
              refine ((shown_settles (fieldOf entries "id")).bind fun id _ =>
                Settles.broken (t := True) typeless).congr ?_ ?_
              · simp
              · constructor
                · rintro ⟨text, _⟩ _ ⟨⟩ _ _
                  exact text
                · exact fun text => ⟨text entries rfl hid htype, trivial⟩
          | true =>
              refine ⟨⟨entries, rfl, hid, htype⟩, ?_⟩
              rintro _ ⟨⟩ _ type
              simp [htype] at type
  | _ =>
      refine Settles.broken ?_
      rintro ⟨_, ⟨⟩, _⟩

theorem checkHead_ok {v : Value} {entries : List (Value × Value)}
    (h : checkHead v = .ok entries) : v = .dict entries := by
  have settled := checkHead_settles v
  rw [h] at settled
  obtain ⟨⟨found, rfl, id, type⟩, _⟩ := settled
  simp only [checkHead, id, type, Bool.not_true, Bool.false_eq_true, if_false] at h
  cases h
  rfl

theorem checkHeads_ok (h : items.mapM checkHead = .ok heads) : items = heads.map .dict := by
  have each := mapM_ok h
  clear h
  induction items generalizing heads with
  | nil => simpa using each
  | cons v rest ih =>
      cases heads with
      | nil => cases each
      | cons entries more =>
          simp only [List.map_cons, List.cons.injEq] at each
          rw [List.map_cons, ← checkHead_ok each.1, ← ih each.2]

theorem idTexts_ok {ids : List String} (h : heads.mapM idText = .ok ids) :
    (heads.map .dict).map idOf = ids := by
  have each := mapM_ok h
  clear h
  induction heads generalizing ids with
  | nil => simpa using each
  | cons entries rest ih =>
      cases ids with
      | nil => cases each
      | cons id more =>
          simp only [List.map_cons, List.cons.injEq] at each
          simp only [List.map_cons, idOf, shown_text each.1, ih each.2]

end Heads

theorem eraseDups_eq_nil {α : Type} [BEq α] {xs : List α} : xs.eraseDups = [] ↔ xs = [] := by
  cases xs with
  | nil => simp
  | cons x rest => simp [List.eraseDups_cons]

/-- No id is found twice exactly if the ids are distinct. -/
theorem duplicates_eq_nil {ids : List String} : duplicates ids = [] ↔ ids.Nodup := by
  rw [duplicates, eraseDups_eq_nil, List.filter_eq_nil_iff, List.nodup_iff_count_le_one]
  constructor
  · intro once id
    by_cases known : id ∈ ids
    · have := once id known
      simp only [decide_eq_true_eq] at this
      omega
    · rw [List.count_eq_zero_of_not_mem known]
      omega
  · intro once id _
    have := once id
    simp only [decide_eq_true_eq]
    omega

theorem checkDistinct_settles (ids : List String) : Settles (checkDistinct ids) ids.Nodup True := by
  unfold checkDistinct
  split
  · next none_twice => exact ⟨duplicates_eq_nil.mp none_twice, trivial⟩
  · next twice =>
      refine Settles.broken fun distinct => ?_
      exact twice (duplicates_eq_nil.mpr distinct)

/-- The passes over a list before its steps are checked one after another. -/
theorem checkList_settles {items : List Value} {each : Verdict} {good expressible : Prop}
    (h : Settles each good expressible) :
    Settles (checkList items each)
      ((∀ v ∈ items, IsHead v) ∧ (items.map idOf).Nodup ∧ good)
      ((∀ entries, .dict entries ∈ items -> HasText (fieldOf entries "id")) ∧ expressible) := by
  have later (heads : List (List (Value × Value))) (passed : items.mapM checkHead = .ok heads) :
      Settles (do checkDistinct (<- heads.mapM idText); each)
        ((items.map idOf).Nodup ∧ good)
        ((∀ entries, .dict entries ∈ items -> HasText (fieldOf entries "id")) ∧ expressible) := by
    have same := checkHeads_ok passed
    have texts : Settles (heads.mapM idText) _ _ := Settles.mapM fun entries _ =>
      shown_settles (fieldOf entries "id")
    have compared (ids : List String) (written : heads.mapM idText = .ok ids) :
        Settles (do checkDistinct ids; each) ((items.map idOf).Nodup ∧ good)
          (True ∧ expressible) := by
      rw [same, idTexts_ok written]
      exact (checkDistinct_settles ids).bind fun _ _ => h
    refine (texts.bind compared).congr (by simp) ?_
    rw [same]
    simp
  refine ((Settles.mapM fun v _ => checkHead_settles v).bind later).congr Iff.rfl ?_
  -- An id that a message about a missing type writes is also one of the ids that are compared.
  constructor
  · exact fun ⟨_, ids, rest⟩ => ⟨ids, rest⟩
  · exact fun ⟨ids, rest⟩ =>
      ⟨fun v hv entries step _ _ => ids entries (step ▸ hv), ids, rest⟩

/-! ## One step -/

theorem sizeOf_field?_lt {entries : List (Value × Value)} {key : String} {v : Value}
    (h : Value.field? entries key = some v) : sizeOf v < sizeOf entries := by
  induction entries with
  | nil => cases h
  | cons e rest ih =>
      rw [List.cons.sizeOf_spec]
      unfold Value.field? at h
      split at h
      · cases h
      · next name first more list =>
          obtain ⟨rfl, rfl⟩ := List.cons.inj list
          rw [Prod.mk.sizeOf_spec]
          split at h
          · cases h
            omega
          · have := ih h
            omega
      · next first more _ list =>
          obtain ⟨rfl, rfl⟩ := List.cons.inj list
          have := ih h
          omega

section Step

variable {id : String} {entries : List (Value × Value)} {place : String}

theorem checkCondition_settles : Settles (checkCondition id entries) (Decided entries) True := by
  simp only [checkCondition]
  split
  · next lacking =>
      refine Settles.broken fun decided => ?_
      rw [Bool.and_eq_true] at lacking
      obtain ⟨present, filled⟩ := decided lacking.1
      simp [present, filled] at lacking
  · next present =>
      refine ⟨fun conditional => ?_, trivial⟩
      simpa [conditional] using present

theorem retryWarning_settles : Settles (retryWarning id entries) True (PolicyHasText entries) := by
  unfold retryWarning PolicyHasText
  cases retry : fieldOf entries "retry" with
  | null => exact ⟨trivial, fun given => absurd rfl given⟩
  | _ =>
      simp only []
      split
      · next retrying =>
          refine ⟨trivial, fun _ other => absurd ?_ other⟩
          simpa using retrying
      · next other =>
          have warned := (shown_settles (policyOf entries)).bind fun text _ => Settles.ok
            [s!"Step '{id}' has a 'retry' block but on_error is '{text}'; the retry settings are unused"]
          refine warned.congr (by simp) ?_
          have differs : (policyOf entries).asText? ≠ some ErrorPolicy.retry.name := by
            simpa using other
          simp [differs]

/-- The verdict on a branch is that on the first field of its name. -/
theorem lookup_checkBranches (place : String) (entries : List (Value × Value)) (key : String) :
    (checkBranches place entries).lookup key =
      (Value.field? entries key).map (checkBranch s!"{place}.{key}") := by
  induction entries with
  | nil => simp [checkBranches, Value.field?]
  | cons e rest ih =>
      obtain ⟨k, v⟩ := e
      cases k with
      | str name =>
          by_cases same : name = key
          · subst same
            simp [checkBranches, Value.field?]
          · have other : (key == name) = false := by simpa using Ne.symm same
            simp [checkBranches, Value.field?, same, other, List.lookup_cons, ih]
      | _ => simpa [checkBranches, Value.field?] using ih

/-- A branch of a conditional step is a list that passes; that of another step is ignored. -/
theorem branchVerdict_settles {key : String} (within : String)
    (h : isConditional entries = true -> ∀ inner, fieldOf entries key = .list inner ->
      ∀ place, Settles (checkList inner (checkSteps place inner)) (Good inner) (Expressible inner)) :
    Settles (branchVerdict id entries place key (checkBranches within entries))
      (isConditional entries = true ->
        (fieldOf entries key = .null ∨ ∃ inner, fieldOf entries key = .list inner) ∧
          ∀ inner, fieldOf entries key = .list inner -> Good inner)
      (isConditional entries = true ->
        ∀ inner, fieldOf entries key = .list inner -> Expressible inner) := by
  unfold branchVerdict
  rw [lookup_checkBranches]
  cases hf : Value.field? entries key with
  | none =>
      have absent : fieldOf entries key = .null := by simp [fieldOf, hf]
      simp [absent, Settles]
  | some v =>
      have value : fieldOf entries key = v := by simp [fieldOf, hf]
      simp only [value, Option.map_some] at h ⊢
      cases conditional : isConditional entries with
      | false => cases v <;> simp [Settles]
      | true =>
          cases v with
          | null => simp [Settles]
          | list inner =>
              simpa [checkBranch] using h conditional inner rfl s!"{within}.{key}"
          | _ => simp [checkBranch, Settles, broken]

/-- The branches of a step are smaller than the list it is in. -/
theorem sizeOf_lt_of_isBranch {items inner : List Value} (step : .dict entries ∈ items)
    (branch : IsBranch entries inner) : sizeOf inner < sizeOf items := by
  obtain ⟨_, key, _, list⟩ := branch
  have within := List.sizeOf_lt_of_mem step
  rw [Value.dict.sizeOf_spec] at within
  cases hf : Value.field? entries key with
  | none => simp [fieldOf, hf] at list
  | some v =>
      have value : v = .list inner := by simpa [fieldOf, hf] using list
      have below := sizeOf_field?_lt hf
      rw [value, Value.list.sizeOf_spec] at below
      omega

theorem forall_isBranch {p : List Value -> Prop} :
    (∀ inner, IsBranch entries inner -> p inner) ↔ (isConditional entries = true ->
      ∀ key ∈ branchKeys, ∀ inner, fieldOf entries key = .list inner -> p inner) := by
  constructor
  · exact fun h conditional key hkey inner list => h inner ⟨conditional, key, hkey, list⟩
  · exact fun h inner ⟨conditional, key, hkey, list⟩ => h conditional key hkey inner list

/-- A step passes when it is decided and each of its branches is a list that passes. -/
theorem checkStep_settles
    (h : ∀ inner, IsBranch entries inner -> ∀ place,
      Settles (checkList inner (checkSteps place inner)) (Good inner) (Expressible inner)) :
    Settles (checkStep place (.dict entries))
      (Decided entries ∧ Forked entries ∧ ∀ inner, IsBranch entries inner -> Good inner)
      (HasText (fieldOf entries "id") ∧ PolicyHasText entries ∧
        ∀ inner, IsBranch entries inner -> Expressible inner) := by
  have lists (key : String) (hkey : key ∈ branchKeys) (conditional : isConditional entries = true)
      (inner : List Value) (list : fieldOf entries key = .list inner) :=
    h inner ⟨conditional, key, hkey, list⟩
  simp only [checkStep, stepVerdict]
  refine ((shown_settles _).bind fun id _ => checkCondition_settles.bind fun _ _ =>
    (branchVerdict_settles _ (lists "if_true" (by simp [branchKeys]))).bind fun _ _ =>
      (branchVerdict_settles _ (lists "if_false" (by simp [branchKeys]))).bind fun _ _ =>
        retryWarning_settles.bind fun _ _ => Settles.ok _).congr ?_ ?_
  · simp only [forall_isBranch, Forked, branchKeys, List.forall_mem_cons]
    tauto
  · simp only [forall_isBranch, branchKeys, List.forall_mem_cons]
    tauto

end Step

/-! ## A whole definition -/

theorem checkSteps_settles {place : String} {items : List Value} {good expressible : Value -> Prop}
    (h : ∀ v ∈ items, Settles (checkStep place v) (good v) (expressible v)) :
    Settles (checkSteps place items) (∀ v ∈ items, good v) (∀ v ∈ items, expressible v) := by
  induction items with
  | nil => exact (Settles.ok _).congr (by simp) (by simp)
  | cons v rest ih =>
      have first := h v List.mem_cons_self
      have later := ih fun w hw => h w (List.mem_cons_of_mem v hw)
      simp only [checkSteps]
      exact (first.bind fun warnings _ => later.bind fun more _ => Settles.ok (warnings ++ more)).congr
        (by simp) (by simp)

/-- The check of a list settles whether it is good, at whatever place it is. -/
theorem settles_good (items : List Value) (place : String) :
    Settles (checkList items (checkSteps place items)) (Good items) (Expressible items) := by
  have each : Settles (checkSteps place items)
      (∀ v ∈ items, ∀ entries, v = .dict entries ->
        Decided entries ∧ Forked entries ∧ ∀ inner, IsBranch entries inner -> Good inner)
      (∀ v ∈ items, ∀ entries, v = .dict entries ->
        HasText (fieldOf entries "id") ∧ PolicyHasText entries ∧
          ∀ inner, IsBranch entries inner -> Expressible inner) := by
    refine checkSteps_settles fun v hv => ?_
    cases v with
    | dict entries =>
        -- The lists below a step are smaller than the list it is in.
        refine (checkStep_settles fun inner branch at' => settles_good inner at').congr ?_ ?_
        · simp
        · simp
    | _ => exact ⟨nofun, nofun⟩
  refine (checkList_settles each).congr ⟨?_, ?_⟩ ⟨?_, ?_⟩
  · rintro ⟨heads, distinct, steps⟩
    exact .intro heads distinct (fun entries step => (steps _ step entries rfl).1)
      (fun entries step => (steps _ step entries rfl).2.1)
      fun entries step => (steps _ step entries rfl).2.2
  · intro good
    refine ⟨good.heads, good.distinct, ?_⟩
    rintro _ step entries rfl
    exact ⟨good.decided entries step, good.forked entries step, good.branches entries step⟩
  · rintro ⟨ids, steps⟩
    exact .intro ids (fun entries step => (steps _ step entries rfl).2.1)
      fun entries step => (steps _ step entries rfl).2.2
  · rintro ⟨ids, policies, branches⟩
    refine ⟨ids, ?_⟩
    rintro _ step entries rfl
    exact ⟨ids entries step, policies entries step, branches entries step⟩
termination_by sizeOf items
decreasing_by exact sizeOf_lt_of_isBranch hv branch

theorem checkDefinition_settles (entries : List (Value × Value)) :
    Settles (checkDefinition entries) (Accepted entries) (Expressed entries) := by
  unfold checkDefinition
  cases named : (fieldOf entries "name").truthy with
  | false => exact Settles.broken fun accepted => by simp [accepted.1] at named
  | true =>
      simp only [Bool.not_true, Bool.false_eq_true, if_false]
      split
      · next none_listed =>
          rintro ⟨_, items, list, nonempty, _⟩
          rw [none_listed] at list
          cases list
          exact nonempty rfl
      · next items some_listed list =>
          refine (settles_good items "steps").congr ⟨?_, ?_⟩ ⟨?_, ?_⟩
          · exact fun good => ⟨named, items, list, some_listed, good⟩
          · rintro ⟨_, _, same, _, good⟩
            cases list.symm.trans same
            exact good
          · intro expressible _ same
            cases list.symm.trans same
            exact expressible
          · exact fun expressed => expressed items list
      · next other =>
          refine Settles.broken ?_
          rintro ⟨_, items, list, _⟩
          exact other items list

theorem accepted_of_check {source : Option String} {entries : List (Value × Value)}
    {warnings : List String} (h : check source entries = .ok warnings) : Accepted entries := by
  have settled := checkDefinition_settles entries
  unfold check at h
  cases hd : checkDefinition entries with
  | error e =>
      rw [hd] at h
      cases h
  | ok ws =>
      rw [hd] at settled
      exact settled.1

/--
The rules decide which definitions are accepted.  The check of a definition gives warnings
exactly if the definition is accepted and all values that it may have to write have
texts.  A broken rule is reported only of a definition that is not accepted, and of every
such definition whose values have texts.
-/
theorem check_decides (source : Option String) (entries : List (Value × Value)) :
    ((∃ warnings, check source entries = .ok warnings) ↔ Accepted entries ∧ Expressed entries) ∧
      ((∃ b, check source entries = .error (.error (errorOf source b))) -> ¬ Accepted entries) ∧
      (Expressed entries -> ¬ Accepted entries ->
        ∃ b, check source entries = .error (.error (errorOf source b))) := by
  have settled := checkDefinition_settles entries
  unfold check
  cases h : checkDefinition entries with
  | ok warnings =>
      rw [h] at settled
      refine ⟨⟨fun _ => settled, fun _ => ⟨warnings, rfl⟩⟩, nofun, ?_⟩
      exact fun _ rejected => absurd settled.1 rejected
  | error e =>
      rw [h] at settled
      cases e with
      | broken b =>
          refine ⟨⟨nofun, fun both => absurd both.1 settled⟩, fun _ => settled, ?_⟩
          exact fun _ _ => ⟨b, rfl⟩
      | fault f =>
          refine ⟨⟨nofun, fun both => absurd both.2 settled⟩, nofun, ?_⟩
          exact fun expressed => absurd expressed settled

/-- A step of which only the id and the type are given. -/
def leaf (id : Value) : List (Value × Value) :=
  [(.str "id", id), (.str "type", .str "output")]

/-- A step `a` with one branch. -/
def fork (inner : List Value) : List (Value × Value) :=
  [(.str "id", .str "a"), (.str "type", .str "conditional"), (.str "condition", .str "true"),
    (.str "if_true", .list inner)]

/-- A definition with some steps. -/
def stepping (items : List Value) : List (Value × Value) :=
  [(.str "name", .str "w"), (.str "steps", .list items)]

section Leaves

variable {ids : List Value}

theorem expressible_leaves (h : ∀ id ∈ ids, HasText id) :
    Expressible (ids.map fun id => .dict (leaf id)) := by
  refine .intro ?_ ?_ ?_
  all_goals
    intro entries step
    obtain ⟨id, hid, same⟩ := List.mem_map.mp step
    cases same
  · exact h id hid
  · exact fun retry => absurd rfl retry
  · exact fun inner branch => nomatch branch.1

theorem good_leaves (present : ∀ id ∈ ids, id.truthy = true)
    (distinct : (ids.map Value.text).Nodup) : Good (ids.map fun id => .dict (leaf id)) := by
  refine .intro ?_ ?_ ?_ ?_ ?_
  · intro v hv
    obtain ⟨id, hid, rfl⟩ := List.mem_map.mp hv
    exact ⟨_, rfl, present id hid, rfl⟩
  · rw [List.map_map]
    exact distinct
  all_goals
    intro entries step
    obtain ⟨id, hid, same⟩ := List.mem_map.mp step
    cases same
  · exact nofun
  · exact nofun
  · exact fun inner branch => nomatch branch.1

end Leaves

section Fork

variable {inner : List Value}

theorem isBranch_fork {list : List Value} (h : IsBranch (fork inner) list) : list = inner := by
  obtain ⟨_, key, hkey, found⟩ := h
  simp only [branchKeys, List.mem_cons, List.not_mem_nil, or_false] at hkey
  rcases hkey with rfl | rfl
  · cases found
    rfl
  · cases found

theorem expressible_fork (h : Expressible inner) : Expressible [.dict (fork inner)] := by
  refine .intro ?_ ?_ ?_
  all_goals
    intro entries step
    cases List.mem_singleton.mp step
  · exact ⟨"a", rfl⟩
  · exact fun retry => absurd rfl retry
  · exact fun list branch => isBranch_fork branch ▸ h

theorem good_fork (h : Good inner) : Good [.dict (fork inner)] := by
  refine .intro ?_ ?_ ?_ ?_ ?_
  · intro v hv
    cases List.mem_singleton.mp hv
    exact ⟨_, rfl, rfl, rfl⟩
  · exact List.nodup_singleton _
  all_goals
    intro entries step
    cases List.mem_singleton.mp step
  · intro _
    refine ⟨rfl, ?_⟩
    change some "true" ≠ some ""
    decide
  · intro _ key hkey
    simp only [branchKeys, List.mem_cons, List.not_mem_nil, or_false] at hkey
    rcases hkey with rfl | rfl
    · exact .inr ⟨inner, rfl⟩
    · exact .inl rfl
  · exact fun list branch => isBranch_fork branch ▸ h

end Fork

/-- The ids of a branch are compared with each other, and with no ids outside. -/
theorem check_decides_fork :
    let once := stepping [.dict (fork [.dict (leaf (.str "a"))])]
    let twice := stepping [.dict (fork [.dict (leaf (.str "a")), .dict (leaf (.str "a"))])]
    (∃ warnings, check none once = .ok warnings) ∧ Expressed twice ∧ ¬ Accepted twice ∧
      ∃ b, check none twice = .error (.error (errorOf none b)) := by
  intro once twice
  have named : HasText (.str "a") := ⟨"a", rfl⟩
  have accepted : Accepted once := by
    have inner : Good ([.str "a"].map fun id => .dict (leaf id)) :=
      good_leaves (by decide) (by decide)
    exact ⟨rfl, _, rfl, by simp, good_fork inner⟩
  have expressed (ids : List Value) (h : ∀ id ∈ ids, id = .str "a") :
      Expressed (stepping [.dict (fork (ids.map fun id => .dict (leaf id)))]) := by
    rintro items list
    cases list
    exact expressible_fork (expressible_leaves fun id hid => h id hid ▸ named)
  have rejected : ¬ Accepted twice := by
    rintro ⟨_, items, list, _, good⟩
    cases list
    have inner := good.branches _ List.mem_cons_self _ ⟨rfl, "if_true", by decide, rfl⟩
    exact absurd inner.distinct (by decide)
  have told : Expressed twice := expressed [.str "a", .str "a"] (by simp)
  exact ⟨(check_decides none once).1.mpr ⟨accepted, expressed [.str "a"] (by simp)⟩, told,
    rejected, (check_decides none twice).2.2 told rejected⟩

/-- A definition in which two steps share an id and another one has an id that is too long. -/
def overlong : List (Value × Value) :=
  stepping [.dict (leaf (.int (.ofNat (Nat.pow 10 Number.maxDigits)))),
    .dict (leaf (.str "b")), .dict (leaf (.str "b"))]

/-- An id that is too long ends the check before the ids are compared. -/
theorem check_falls :
    ¬ Accepted overlong ∧ check none overlong = .error (.fault Value.tooManyDigits) := by
  constructor
  · rintro ⟨_, items, list, _, good⟩
    cases list
    have distinct := (List.nodup_cons.mp good.distinct).2
    exact absurd distinct (by decide)
  · have ended : checkDefinition overlong = .error (.fault Value.tooManyDigits) := by
      decide +kernel
    rw [check, ended]
    rfl

end Rules

end Workflow
