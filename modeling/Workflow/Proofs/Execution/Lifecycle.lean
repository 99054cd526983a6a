import Mathlib.Data.List.Forall2
import Workflow.Proofs.Execution.Frame
import Workflow.Proofs.Execution.Steps

/-!
# The record of an execution

An execution that does not start leaves the ledger alone.  One that starts adds a single
record under an id of its own and leaves it finished: completed when the caller gets a
summary, failed when the caller sees something raised.
-/

namespace Workflow

open Effect

/-! ## Inputs that fit -/

/-- Two values are admitted by the same types. -/
def Value.Alike (v w : Value) : Prop :=
  ∀ t : InputType, t.admits v = t.admits w

/-- Inputs under the same names whose values are admitted by the same types. -/
def Value.AlikeFields (given other : List (Value × Value)) : Prop :=
  List.Forall₂ (fun a b => a.1 = b.1 ∧ Value.Alike a.2 b.2) given other

namespace Value

theorem AlikeFields.refl (given : List (Value × Value)) : AlikeFields given given := by
  induction given with
  | nil => exact .nil
  | cons e rest ih => exact .cons ⟨rfl, fun _ => rfl⟩ ih

theorem AlikeFields.field? {given other : List (Value × Value)} (h : AlikeFields given other)
    (name : String) :
    Option.Rel Alike (Value.field? given name) (Value.field? other name) := by
  induction h with
  | nil => exact .none
  | @cons a b rest more hab _ ih =>
      obtain ⟨k, v⟩ := a
      obtain ⟨k', v'⟩ := b
      obtain ⟨rfl, hv⟩ := hab
      cases k with
      | str key =>
          by_cases hk : key = name
          · simpa [Value.field?, hk] using Option.Rel.some hv
          · simpa [Value.field?, hk] using ih
      | _ => exact ih

theorem AlikeFields.putField {given other : List (Value × Value)} (h : AlikeFields given other)
    (name : String) {v w : Value} (hv : Alike v w) :
    AlikeFields (Value.putField given name v) (Value.putField other name w) := by
  induction h with
  | nil => exact .cons ⟨rfl, hv⟩ .nil
  | @cons a b rest more hab hrest ih =>
      obtain ⟨k, u⟩ := a
      obtain ⟨k', u'⟩ := b
      obtain ⟨rfl, hu⟩ := hab
      cases k with
      | str key =>
          by_cases hk : key = name
          · simp only [Value.putField, hk, if_true]
            exact .cons ⟨rfl, hv⟩ hrest
          · simp only [Value.putField, hk, if_false]
            exact .cons ⟨rfl, hu⟩ ih
      | _ => exact .cons ⟨rfl, hu⟩ ih

end Value

/-- Marks do not change which types take a value. -/
theorem Objects.alike_adopt (o : Objects) (v : Value) : Value.Alike (o.adopt v).1 v := by
  intro t
  cases v with
  | float x =>
      simp only [adopt, markFrom]
      split <;> cases t <;> rfl
  | _ => cases t <;> simp [adopt, markFrom, InputType.admits, Value.bare]

namespace Engine

variable {σ : Type}

theorem checkInput_alike {given other : List (Value × Value)} (h : Value.AlikeFields given other)
    (name : String) {i j : Input} (ht : i.type = j.type) (hr : i.required = j.required)
    (hd : Value.Alike i.default j.default) {all : List (Value × Value)}
    (hok : checkInput given name i = .ok all) :
    ∃ all', checkInput other name j = .ok all' ∧ Value.AlikeFields all all' := by
  have same := h.field? name
  unfold checkInput at hok ⊢
  cases hg : Value.field? given name with
  | none =>
      cases ho : Value.field? other name with
      | none =>
          rw [hg] at hok
          by_cases needed : i.required
          · simp [needed] at hok
          · simp [needed] at hok
            subst hok
            exact ⟨_, by simp [← hr, needed], h.putField name hd⟩
      | some w => rw [hg, ho] at same; cases same
  | some v =>
      cases ho : Value.field? other name with
      | none => rw [hg, ho] at same; cases same
      | some w =>
          rw [hg, ho] at same
          cases same with
          | some hv =>
              rw [hg] at hok
              by_cases fits : i.type.admits v
              · simp [fits] at hok
                subst hok
                exact ⟨other, by simp [← ht, ← hv i.type, fits], h⟩
              · simp [fits] at hok

/-- Declarations that differ only in the marks of their defaults take the same inputs. -/
theorem checkInputs_alike {declared other : List (String × Input)}
    (hd : List.Forall₂ (fun a b => a.1 = b.1 ∧ a.2.type = b.2.type ∧
      a.2.required = b.2.required ∧ Value.Alike a.2.default b.2.default) declared other)
    {given given' all : List (Value × Value)} (hg : Value.AlikeFields given given')
    (hok : checkInputs given declared = .ok all) : ∃ all', checkInputs given' other = .ok all' := by
  induction hd generalizing given given' with
  | nil => exact ⟨given', rfl⟩
  | @cons a b rest more hab _ ih =>
      obtain ⟨name, i⟩ := a
      obtain ⟨name', j⟩ := b
      obtain ⟨rfl, ht, hr, hdef⟩ := hab
      simp only [checkInputs, bind, Except.bind] at hok ⊢
      split at hok
      · cases hok
      · next mid hmid =>
          obtain ⟨mid', hmid', alike⟩ := checkInput_alike hg name ht hr hdef hmid
          obtain ⟨all', hall⟩ := ih alike hok
          exact ⟨all', by simp [hmid', hall]⟩

/-- A declared input and the same one with marks for its default. -/
def SameInput (a b : String × Input) : Prop :=
  a.1 = b.1 ∧ a.2.type = b.2.type ∧ a.2.required = b.2.required ∧
    Value.Alike a.2.default b.2.default

theorem SameInput.symm {a b : String × Input} (h : SameInput a b) : SameInput b a :=
  ⟨h.1.symm, h.2.1.symm, h.2.2.1.symm, fun t => (h.2.2.2 t).symm⟩

theorem sameInput_adoptDefaults (o : Objects) (declared : List (String × Input)) :
    List.Forall₂ SameInput (adoptDefaults o declared).1 declared := by
  induction declared generalizing o with
  | nil => exact .nil
  | cons i rest ih =>
      exact .cons ⟨rfl, rfl, rfl, o.alike_adopt i.2.default⟩ (ih (o.adopt i.2.default).2)

/-- Whether inputs fit does not depend on the marks of the defaults. -/
theorem checkInputs_adoptDefaults (o : Objects) (declared : List (String × Input))
    (given : List (Value × Value)) :
    (∃ all, checkInputs given (adoptDefaults o declared).1 = .ok all) ↔
      ∃ all, checkInputs given declared = .ok all := by
  have same := sameInput_adoptDefaults o declared
  constructor
  · rintro ⟨all, h⟩
    exact checkInputs_alike same (.refl given) h
  · rintro ⟨all, h⟩
    exact checkInputs_alike (same.flip.imp fun _ _ h => SameInput.symm h) (.refl given) h

/-- The definition that an execution would run: its name is known and the inputs fit it. -/
def Starts (e : Engine σ) (name : String) (inputs : List (Value × Value))
    (definition : Definition) : Prop :=
  e.store.get? name = some definition ∧ ∃ all, checkInputs inputs definition.inputs = .ok all

/-- What does not start is refused, and only marks of defaults are left in the store. -/
theorem prepare_error {e : Engine σ} {name : String} {inputs : List (Value × Value)}
    (h : ¬ ∃ definition, e.Starts name inputs definition) (w : World σ) :
    ∃ f problem v, prepare e name inputs w = ((f, .error problem), v) ∧ f.ledger = e.ledger := by
  unfold prepare
  cases hs : e.store.get? name with
  | none => exact ⟨_, _, _, rfl, rfl⟩
  | some definition =>
      cases hc : checkInputs inputs (adoptDefaults w.objects definition.inputs).1 with
      | error problem =>
          simp only [hc, Except.map]
          exact ⟨_, problem, _, rfl, rfl⟩
      | ok all =>
          have fits := (checkInputs_adoptDefaults w.objects definition.inputs inputs).1 ⟨all, hc⟩
          exact (h ⟨definition, hs, fits⟩).elim

/-- What starts is the definition that was stored, with marks for its defaults. -/
theorem prepare_ok {e : Engine σ} {name : String} {inputs : List (Value × Value)}
    {definition : Definition} (h : e.Starts name inputs definition) (w : World σ) :
    ∃ f marked given v, prepare e name inputs w = ((f, .ok (marked, given)), v) ∧
      f.ledger = e.ledger ∧ v.fresh = w.fresh ∧ marked.steps = definition.steps := by
  obtain ⟨hs, fits⟩ := h
  obtain ⟨given, hc⟩ := (checkInputs_adoptDefaults w.objects definition.inputs inputs).2 fits
  simp only [prepare, hs, hc, Except.map]
  exact ⟨_, _, given, _, rfl, rfl, rfl, rfl⟩

end Engine

/-! ## The end of a record -/

/-- What a record shows when its values are looked at. -/
def Execution.seen (o : Objects) (x : Execution) : Value :=
  o.refresh x.toValue

/-- The record of an execution of some steps agrees with what its caller got. -/
structure Execution.Settles (x : Execution) (steps : List Step)
    (ended : Except Raised Summary) : Prop where
  returned : (∃ s, ended = .ok s) ↔ x.status = .completed
  raised : (∃ r, ended = .error r) ↔ x.status = .failed
  /-- A completed record has no error, the outputs returned, and a result for each step. -/
  completed : ∀ s, ended = .ok s -> x.failure = none ∧ x.outputs = s.outputs ∧
    x.stepResults.map StepResult.heading = steps.map Step.heading
  /-- A failed record has an error, no outputs, and results for the first steps. -/
  failed : ∀ r, ended = .error r -> (∃ note, x.failure = some note) ∧ x.outputs = .null ∧
    x.stepResults.map StepResult.heading <+: steps.map Step.heading

theorem Execution.settles_complete {x : Execution} {steps : List Step} (hf : x.failure = none)
    (hr : x.stepResults.map StepResult.heading = steps.map Step.heading) (now : DateTime)
    (outputs : Value) :
    (x.complete now outputs).Settles steps
      (.ok (Summary.ofExecution (x.complete now outputs))) where
  returned := by simp [complete]
  raised := by simp [complete]
  completed s h := by
    cases h
    exact ⟨hf, rfl, hr⟩
  failed r h := by cases h

theorem Execution.settles_fail {x : Execution} {steps : List Step} (ho : x.outputs = .null)
    (hr : x.stepResults.map StepResult.heading <+: steps.map Step.heading) (now : DateTime)
    (note : FailureNote) (r : Raised) : (x.fail now note).Settles steps (.error r) where
  returned := by simp [fail]
  raised := by simp [fail]
  completed s h := by cases h
  failed r h := ⟨⟨note, rfl⟩, ho, hr⟩

namespace Engine

variable {σ : Type}

/-- Every way out of a run settles the record that it started with. -/
theorem runToEnd_settles (d : Dispatcher σ) (definition : Definition) (c : Context)
    {x : Execution} (hf : x.failure = none) (ho : x.outputs = .null) (w : World σ) :
    let ran := (runToEnd d definition c x w).1
    ran.1.id = x.id ∧
      ran.1.Settles definition.steps (ran.2.map fun _ => Summary.ofExecution ran.1) := by
  obtain ⟨passed, hp, front, all⟩ := advanceAll_results d ⟨c, []⟩ definition.steps w
  rcases hs : advanceAll d ⟨c, []⟩ definition.steps w with ⟨⟨p, stop⟩, v⟩
  rw [hs] at hp all
  replace hp : p.results = passed := by simpa using hp
  subst hp
  let y := { x with stepResults := p.results }
  cases stop with
  | some s =>
      simp only [runToEnd, hs]
      exact ⟨rfl, Execution.settles_fail (x := y) ho front _ _ _⟩
  | none =>
      cases hout : outputsOf definition p.context v with
      | error r u =>
          simp only [runToEnd, hs, hout]
          exact ⟨rfl, Execution.settles_fail (x := y) ho front _ _ _⟩
      | ok outputs u =>
          simp only [runToEnd, hs, hout]
          exact ⟨rfl, Execution.settles_complete (x := y) hf (all rfl) _ _⟩

/-- No part of a run takes an identifier back. -/
theorem frame_issued : World.Frame fun w v : World σ => w.fresh.issued ≤ v.fresh.issued where
  refl _ := Nat.le_refl _
  trans := Nat.le_trans
  issued _ n := Nat.le_add_right _ n
  marked w _ _ := Nat.le_refl w.fresh.issued
  logged w _ _ := Nat.le_refl w.fresh.issued
  waited w _ := Nat.le_refl w.fresh.issued
  timed w _ _ := Nat.le_refl w.fresh.issued

theorem moves_issued (r : Registry σ) :
    r.Moves fun w v : World σ => w.fresh.issued ≤ v.fresh.issued := by
  intro type id h _
  cases h with
  | builtin b => exact fun _ _ _ w => Nat.le_refl w.fresh.issued
  | conditional => exact fun _ _ w => Nat.le_refl w.fresh.issued
  | plugin p => exact fun _ _ _ w => Nat.le_refl w.fresh.issued

/-- An execution that does not start raises something, and the ledger stays as it is. -/
theorem execute_refused {e : Engine σ} {name : String} {inputs : List (Value × Value)}
    (h : ¬ ∃ definition, e.Starts name inputs definition) (env : Environment)
    (extra : List (Value × Value)) (w : World σ) :
    (∃ r, (execute e env name inputs extra w).1.2 = .error r) ∧
      (execute e env name inputs extra w).1.1.ledger = e.ledger := by
  obtain ⟨f, problem, v, ha, same⟩ := prepare_error h w
  simp only [execute, ha]
  exact ⟨⟨_, rfl⟩, same⟩

/-- An execution that starts adds one record under the next identifier and settles it. -/
theorem execute_started {e : Engine σ} {name : String} {inputs : List (Value × Value)}
    {definition : Definition} (h : e.Starts name inputs definition) (env : Environment)
    (extra : List (Value × Value)) (w : World σ) :
    ∃ x y : Execution, x.id = w.fresh.issue.1 ∧ y.id = x.id ∧
      (execute e env name inputs extra w).1.1.ledger = (e.ledger.add x).update y ∧
      y.Settles definition.steps (execute e env name inputs extra w).1.2 ∧
      w.fresh.issued < (execute e env name inputs extra w).2.fresh.issued := by
  obtain ⟨f, marked, given, v, ha, same, clock, steps⟩ := prepare_ok h w
  let opened := openRecord f env marked given extra v
  have settled := runToEnd_settles ⟨f.settings, f.registry⟩ marked opened.1.2.1
    (x := opened.1.2.2) rfl rfl opened.2
  have later := runToEnd_moves frame_issued (moves_issued f.registry)
    (d := ⟨f.settings, f.registry⟩) marked opened.1.2.1 opened.1.2.2 opened.2
  refine ⟨opened.1.2.2, _, ?_, settled.1, ?_, ?_, ?_⟩
  · rw [← clock]
    rfl
  · simp only [execute, ha, ← same]
    rfl
  · rw [← steps]
    simp only [execute, ha]
    exact settled.2
  · rw [← clock]
    simp only [execute, ha]
    exact later

/-! ## Reachable engines -/

/--
An engine in a world at some time of its life: it was made, definitions and executors
came and went, time passed, executions were run one after another, and others that are
still going on opened and closed their records.
-/
inductive Reachable : Engine σ -> World σ -> Prop where
  | made {settings registry e} (w : World σ) (h : create settings registry = .ok e) :
      Reachable e w
  | stored {e w} (store : Store) (initialized : Bool) (h : Reachable e w) :
      Reachable { e with store, initialized } w
  | registered {e w} (registry : Registry σ) (h : Reachable e w) :
      Reachable { e with registry } w
  | elapsed {e w v} (h : Reachable e w) (later : w.fresh.issued ≤ v.fresh.issued) :
      Reachable e v
  | opened {e w} (x : Execution) (n : Nat) (h : Reachable e w) (issued : n ≤ w.fresh.issued)
      (own : x.id = Fresh.identifierText n) : Reachable { e with ledger := e.ledger.add x } w
  | closed {e w} (x : Execution) (h : Reachable e w) :
      Reachable { e with ledger := e.ledger.update x } w
  | executed {e w} (env : Environment) (name : String) (inputs extra : List (Value × Value))
      (h : Reachable e w) :
      Reachable (execute e env name inputs extra w).1.1 (execute e env name inputs extra w).2

/-- Every record is kept under an identifier that was issued. -/
def IdsIssued (l : Ledger) (f : Fresh) : Prop :=
  ∀ id x, l.get? id = some x -> ∃ n, n ≤ f.issued ∧ id = Fresh.identifierText n

theorem IdsIssued.later {l : Ledger} {f g : Fresh} (h : IdsIssued l f)
    (later : f.issued ≤ g.issued) : IdsIssued l g := by
  intro id x hx
  obtain ⟨n, hn, rfl⟩ := h id x hx
  exact ⟨n, Nat.le_trans hn later, rfl⟩

theorem IdsIssued.add {l : Ledger} {f : Fresh} (h : IdsIssued l f) {x : Execution} {n : Nat}
    (hn : n ≤ f.issued) (own : x.id = Fresh.identifierText n) : IdsIssued (l.add x) f := by
  intro id y hy
  by_cases same : x.id = id
  · exact ⟨n, hn, same.symm.trans own⟩
  · rcases l.get?_add_of_ne x same with kept | gone
    · exact h id y (kept ▸ hy)
    · rw [gone] at hy
      cases hy

theorem IdsIssued.update {l : Ledger} {f : Fresh} (h : IdsIssued l f) (x : Execution) :
    IdsIssued (l.update x) f := by
  intro id y hy
  by_cases same : x.id = id
  · subst same
    cases before : l.get? x.id with
    | none => simp [l.get?_update_self x, before] at hy
    | some z => exact h x.id z before
  · rw [l.get?_update_of_ne x same] at hy
    exact h id y hy

/-- The next identifier is the id of no record. -/
theorem IdsIssued.next {l : Ledger} {f : Fresh} (h : IdsIssued l f) : l.get? f.issue.1 = none := by
  cases hx : l.get? f.issue.1 with
  | none => rfl
  | some x =>
      obtain ⟨n, hn, same⟩ := h _ x hx
      have := Fresh.identifierText_injective same
      omega

theorem IdsIssued.execute {e : Engine σ} {w : World σ} (h : IdsIssued e.ledger w.fresh)
    (env : Environment) (name : String) (inputs extra : List (Value × Value)) :
    IdsIssued (execute e env name inputs extra w).1.1.ledger
      (execute e env name inputs extra w).2.fresh := by
  have later := execute_moves frame_issued (moves_issued e.registry) env name inputs extra w
  by_cases starts : ∃ definition, e.Starts name inputs definition
  · obtain ⟨definition, starts⟩ := starts
    obtain ⟨x, y, hx, _, ledger, _, more⟩ := execute_started starts env extra w
    rw [ledger]
    exact ((h.later later).add more hx).update y
  · rw [(execute_refused starts env extra w).2]
    exact h.later later

theorem create_entries {settings : Settings} {registry : Registry σ} {e : Engine σ}
    (h : create settings registry = .ok e) : e.ledger.entries = [] := by
  have empty {l : Ledger} (hl : Ledger.ofLimit settings.maxExecutions = .ok l) :
      l.entries = [] := by
    unfold Ledger.ofLimit at hl
    split at hl
    · cases hl
      rfl
    · split at hl
      · cases hl
      · cases hl
        rfl
  simp only [create, bind, Except.bind] at h
  split at h
  · cases h
  · next l hl =>
      cases h
      exact empty hl

theorem Reachable.idsIssued {e : Engine σ} {w : World σ} (h : Reachable e w) :
    IdsIssued e.ledger w.fresh := by
  induction h with
  | made w h =>
      intro id x hx
      rw [Ledger.get?, create_entries h] at hx
      cases hx
  | stored _ _ _ ih => exact ih
  | registered _ _ ih => exact ih
  | elapsed _ later ih => exact ih.later later
  | opened x n _ issued own ih => exact ih.add issued own
  | closed x _ ih => exact ih.update x
  | executed env name inputs extra _ ih => exact ih.execute env name inputs extra

/-! ## Executors that leave values alone -/

/-- What values hold was not changed. -/
def Untouched (w v : World σ) : Prop :=
  v.objects.changes = w.objects.changes

theorem frame_untouched : World.Frame (Untouched : World σ -> World σ -> Prop) where
  refl _ := rfl
  trans h k := k.trans h
  issued _ _ := rfl
  marked _ _ _ := rfl
  logged _ _ _ := rfl
  waited _ _ := rfl
  timed _ _ _ := rfl

/-- Executors from outside get values to read, and have no way to change them. -/
theorem plugin_untouched (p : Plugin σ) : (Handler.plugin p).Moves Untouched :=
  fun _ _ _ _ => rfl

/-- A run changes what values hold only where one of its executors does. -/
theorem execute_untouched {e : Engine σ} (he : e.registry.Moves Untouched) (env : Environment)
    (name : String) (inputs extra : List (Value × Value)) (w : World σ) :
    Untouched w (execute e env name inputs extra w).2 :=
  execute_moves frame_untouched he env name inputs extra w

/-! ## The lifecycle -/

/--
What becomes of the records when an execution is asked for.  One that does not start
raises something and adds no record; one that starts adds exactly one, under an id that
no record had, and it is finished when the call ends.  All other records stay as they
were or are given up, and they show what they showed before unless the run changed what
values hold.
-/
theorem execute_lifecycle {e : Engine σ} {w : World σ} (h : Reachable e w) (env : Environment)
    (name : String) (inputs extra : List (Value × Value)) :
    let done := execute e env name inputs extra w
    ((¬ ∃ definition, e.Starts name inputs definition) ->
      (∃ r, done.1.2 = .error r) ∧ done.1.1.ledger = e.ledger) ∧
    (∀ definition, e.Starts name inputs definition ->
      ∃ x : Execution, e.ledger.get? x.id = none ∧ done.1.1.ledger.get? x.id = some x ∧
        x.Settles definition.steps done.1.2 ∧
        ∀ id, id ≠ x.id ->
          done.1.1.ledger.get? id = e.ledger.get? id ∨ done.1.1.ledger.get? id = none) ∧
    (Untouched w done.2 -> ∀ x : Execution, x.seen done.2.objects = x.seen w.objects) := by
  refine ⟨fun starts => execute_refused starts env extra w, fun definition starts => ?_, ?_⟩
  · obtain ⟨x, y, hx, hy, ledger, settled, _⟩ := execute_started starts env extra w
    refine ⟨y, ?_, ?_, settled, fun id other => ?_⟩
    · rw [hy, hx]
      exact h.idsIssued.next
    · rw [ledger, Ledger.get?_update_self, hy, Ledger.get?_add_self]
      rfl
    · rw [ledger, Ledger.get?_update_of_ne _ _ other.symm]
      exact e.ledger.get?_add_of_ne x (hy ▸ other.symm)
  · intro unchanged x
    exact Objects.refresh_of_same_changes unchanged x.toValue

/-- A definition with one step. -/
def oneStep : Definition :=
  ⟨"w", none, none, [], none, .null, [.plain "a" "seven"], none, none⟩

/-- An executor that gives a number. -/
def seven : Plugin Unit :=
  .ofFunction "seven" fun _ _ _ s => (.value (.int 7), s)

/-- An engine that can run the definition. -/
def sevens : Engine Unit :=
  ⟨.standard, [("w", oneStep)], ⟨none, []⟩, ⟨[("seven", .plugin seven)], false⟩, false⟩

/-- A world in which nothing has happened yet. -/
def dawn : World Unit :=
  .start ⟨⟨⟨2024, 1, 2⟩, 3, 4, 5, 0, none⟩, 0⟩ 0.5 ()

theorem reachable_sevens : Reachable sevens dawn :=
  .stored [("w", oneStep)] false (.registered sevens.registry
    (@Reachable.made Unit .standard .empty _ dawn rfl))

theorem execute_lifecycle_sevens :
    ∃ x : Execution, (execute sevens [] "w" [] [] dawn).1.1.ledger.get? x.id = some x ∧
      x.status = .completed ∧ x.stepResults.map StepResult.heading = [("a", "seven")] := by
  have starts : sevens.Starts "w" [] oneStep := ⟨rfl, [], rfl⟩
  obtain ⟨x, _, kept, settled, _⟩ :=
    (execute_lifecycle reachable_sevens [] "w" [] []).2.1 oneStep starts
  have returned : ∃ s, (execute sevens [] "w" [] [] dawn).1.2 = .ok s := ⟨_, rfl⟩
  obtain ⟨s, hs⟩ := returned
  exact ⟨x, kept, settled.returned.1 ⟨s, hs⟩, (settled.completed s hs).2.2⟩

end Engine

end Workflow
