import Workflow.Proofs.Dispatch.History
import Workflow.Proofs.Dispatch.Nesting
import Workflow.Proofs.Dispatch.Policy

/-!
# Steps of a branch stay apart

The steps of a branch are dispatched one after another, all in the context of the step that
chose the branch.  What is left of a dispatch, besides its output, is a past that no other
one goes by, numbers of marks, and time that was spent.  So each of them gives what it gives
alone, unless one of them changes what a value holds, which all that have the value see.
-/

namespace Workflow

open Effect
open Engine (Untouched)

variable {σ : Type}

/-! ## Worlds in which nothing happened that shows -/

namespace World

/-- A world when another one has come so far: with its numbers of marks and its time. -/
def later (w v : World σ) : World σ :=
  { w with objects := { v.objects with changes := w.objects.changes },
           elapsed := v.elapsed, expired := v.expired }

/-- Nothing happened from one world to another that shows in values, time apart. -/
structure Continues (w v : World σ) : Prop where
  untouched : Untouched w v
  now : v.fresh.now = w.fresh.now
  chance : v.chance = w.chance

/-- Only its past makes such a world another one than the first, when it has come so far. -/
theorem Continues.after {w v : World σ} (h : w.Continues v) : (w.later v).after v.past = v := by
  obtain ⟨⟨now, issued⟩, ⟨next, nextAdded, changes⟩, chance, log, delays, elapsed, expired, s⟩ := v
  obtain ⟨untouched, rfl, rfl⟩ := h
  obtain rfl : changes = w.objects.changes := untouched
  rfl

end World

/-- No part of a dispatch changes the clock. -/
theorem frame_now : World.Frame fun w v : World σ => v.fresh.now = w.fresh.now where
  refl _ := rfl
  trans before after := after.trans before
  issued _ _ := rfl
  marked _ _ _ := rfl
  logged _ _ _ := rfl
  waited _ _ := rfl
  timed _ _ _ := rfl

theorem Handler.moves_now (h : Handler σ) : h.Moves fun w v => v.fresh.now = w.fresh.now := by
  cases h with
  | builtin b => exact fun _ _ _ _ => rfl
  | conditional => exact fun _ _ _ => rfl
  | plugin p => exact fun _ _ _ _ => rfl

/-- What a context shows depends on the changes alone. -/
theorem Context.current_of_untouched (c : Context) {w v : World σ} (h : Untouched w v) :
    c.current v.objects = c.current w.objects := by
  have same : v.objects.refresh = w.objects.refresh :=
    funext fun value => Objects.refresh_of_same_changes h value
  simp only [current, same]

/-- A run that comes to the same after any past leaves the same but for a past. -/
theorem Run.Oblivious.left {α : Type} {m : Run σ α} (h : Oblivious m) (p : Past σ) (w : World σ) :
    ∃ q, Effect.left m (w.after p) = (Effect.left m w).after q := by
  obtain ⟨q, same⟩ := h p w
  refine ⟨q, ?_⟩
  simp only [Effect.left, same]
  cases m w <;> rfl

/-! ## Turns -/

/-- The same turn in another world, when that has come so far. -/
def Turn.alone (t : Turn σ) (w : World σ) : Turn σ :=
  { t with world := w.later t.world }

namespace Dispatcher

variable {d : Dispatcher σ} {c : Context} {deadlines : List Float} {w v u t : World σ}
  {r : Raised}

/-- The world that the dispatch of a step in its turn leaves. -/
def leaves (d : Dispatcher σ) (c : Context) (t : Turn σ) : World σ :=
  left (dispatchWithin d c t.deadlines t.step) t.world

/-- The turns of steps that are dispatched one after another, as far as they come. -/
def turns (d : Dispatcher σ) (c : Context) (deadlines : List Float) :
    List Step -> World σ -> List (Turn σ)
  | [], _ => []
  | step :: rest, w =>
      ⟨step, deadlines, w⟩ :: match dispatchWithin d c deadlines step w with
        | .ok _ v => turns d c deadlines rest v
        | .error _ _ => []

theorem turns_cons_ok {step : Step} {outcome : StepOutcome} (rest : List Step)
    (h : dispatchWithin d c deadlines step w = .ok outcome v) :
    turns d c deadlines (step :: rest) w =
      ⟨step, deadlines, w⟩ :: turns d c deadlines rest v := by
  simp only [turns, h]

theorem turns_cons_error {step : Step} (rest : List Step)
    (h : dispatchWithin d c deadlines step w = .error r v) :
    turns d c deadlines (step :: rest) w = [⟨step, deadlines, w⟩] := by
  simp only [turns, h]

/-- A step gives an output when it is dispatched in its turn, but in another world. -/
def GivesAlone (d : Dispatcher σ) (c : Context) (w : World σ) (t : Turn σ) (output : Value) : Prop :=
  ∃ outcome v, took d c (t.alone w) = .ok outcome v ∧ outcome.output = output

/-- A step raises something when it is dispatched in its turn, but in another world. -/
def RaisesAlone (d : Dispatcher σ) (c : Context) (w : World σ) (t : Turn σ) (r : Raised) : Prop :=
  ∃ v, took d c (t.alone w) = .error r v

section Alone

variable (forgetful : d.registry.Forgetful)
include forgetful

/-- What a step comes to in its turn, it comes to in a world in which nothing happened before. -/
theorem took_alone {turn : Turn σ} (undrawn : ∀ s ∈ turn.step.tree, s.Undrawn)
    (h : w.Continues turn.world) :
    ∃ q, took d c turn = changed (World.after q) (took d c (turn.alone w)) := by
  obtain ⟨q, same⟩ :=
    oblivious_dispatchWithin c forgetful turn.deadlines turn.step undrawn turn.world.past
      (w.later turn.world)
  rw [h.after] at same
  exact ⟨q, same⟩

/-- A step that leaves values as they are when it is alone does so in its turn. -/
theorem continues_leaves {turn : Turn σ} (undrawn : ∀ s ∈ turn.step.tree, s.Undrawn)
    (h : w.Continues turn.world) (kept : Untouched w (leaves d c (turn.alone w))) :
    w.Continues (leaves d c turn) where
  untouched := by
    obtain ⟨q, same⟩ :=
      (oblivious_dispatchWithin c forgetful turn.deadlines turn.step undrawn).left
        turn.world.past (w.later turn.world)
    rw [h.after] at same
    have objects := congrArg World.objects same
    exact (congrArg Objects.changes objects).trans kept
  now :=
    (moves_dispatchWithin frame_now (fun _ _ h _ => h.moves_now) c turn.deadlines turn.step
      turn.world).trans h.now
  chance :=
    (moves_dispatchWithin frame_chance (fun _ _ h _ => h.moves_chance) c turn.deadlines turn.step
      turn.world).trans h.chance

theorem givesAlone_of_took {turn : Turn σ} {outcome : StepOutcome}
    (undrawn : ∀ s ∈ turn.step.tree, s.Undrawn) (h : w.Continues turn.world)
    (given : took d c turn = .ok outcome u) : GivesAlone d c w turn outcome.output := by
  obtain ⟨q, same⟩ := took_alone (c := c) forgetful undrawn h
  rw [given] at same
  cases ended : took d c (turn.alone w) with
  | ok o z =>
      rw [ended] at same
      cases same
      exact ⟨_, z, ended, rfl⟩
  | error r z =>
      rw [ended] at same
      cases same

theorem raisesAlone_of_took {turn : Turn σ} (undrawn : ∀ s ∈ turn.step.tree, s.Undrawn)
    (h : w.Continues turn.world) (failed : took d c turn = .error r u) :
    RaisesAlone d c w turn r := by
  obtain ⟨q, same⟩ := took_alone (c := c) forgetful undrawn h
  rw [failed] at same
  cases ended : took d c (turn.alone w) with
  | ok o z =>
      rw [ended] at same
      cases same
  | error r z =>
      rw [ended] at same
      cases same
      exact ⟨z, ended⟩

end Alone

/-! ## The steps of a branch, one after another -/

/--
How steps end that are dispatched one after another: each gives what it gives alone in a
world, up to the first that raises something alone, which the others do not follow.
-/
inductive EndApart (d : Dispatcher σ) (c : Context) (w : World σ) (steps : List Step) {α : Type}
    (f : List Value -> α) : List (Turn σ) -> EStateM.Result Raised (World σ) α -> Prop where
  | gave {turns : List (Turn σ)} {outputs : List Value} {u : World σ}
      (all : turns.map Turn.step = steps)
      (alone : List.Forall₂ (GivesAlone d c w) turns outputs) :
      EndApart d c w steps f turns (.ok (f outputs) u)
  | raised (front : List (Turn σ)) {turn : Turn σ} {back : List Step} {r : Raised} {u : World σ}
      (split : steps = front.map Turn.step ++ turn.step :: back)
      (before : ∀ t ∈ front, ∃ output, GivesAlone d c w t output)
      (alone : RaisesAlone d c w turn r) (last : took d c turn = .error r u) :
      EndApart d c w steps f (front ++ [turn]) (.error r u)

theorem dispatchAll_cons_error {step : Step} (rest : List Step)
    (h : dispatchWithin d c deadlines step w = .error r v) :
    dispatchAll d c deadlines (step :: rest) w = .error r v := by
  have before : dispatchAll d c deadlines [] w = .ok [] w := rfl
  exact dispatchAll_of_error before h rest

theorem dispatchAll_cons_ok {step : Step} {outcome : StepOutcome} (rest : List Step)
    (h : dispatchWithin d c deadlines step w = .ok outcome v) :
    dispatchAll d c deadlines (step :: rest) w =
      match dispatchAll d c deadlines rest v with
      | .ok outputs u => .ok (outcome.output :: outputs) u
      | .error r u => .error r u := by
  simp only [dispatchAll, bind, EStateM.bind, h]
  cases dispatchAll d c deadlines rest v <;> rfl

/-- Steps that leave values as they are, each alone in its turn, stay apart. -/
theorem dispatchAll_apart (forgetful : d.registry.Forgetful) {steps : List Step}
    (undrawn : ∀ s ∈ Step.listTree steps, s.Undrawn) (h : w.Continues v)
    (kept : ∀ turn ∈ turns d c deadlines steps v, Untouched w (leaves d c (turn.alone w))) :
    EndApart d c w steps id (turns d c deadlines steps v) (dispatchAll d c deadlines steps v) ∧
      w.Continues (left (dispatchAll d c deadlines steps) v) := by
  induction steps generalizing v with
  | nil => exact ⟨.gave rfl .nil, h⟩
  | cons step rest ih =>
      rw [Step.listTree] at undrawn
      let turn : Turn σ := ⟨step, deadlines, v⟩
      have here (s : Step) (hs : s ∈ turn.step.tree) : s.Undrawn :=
        undrawn s (List.mem_append_left _ hs)
      have first : w.Continues (leaves d c turn) :=
        continues_leaves forgetful here h (kept turn List.mem_cons_self)
      cases hs : dispatchWithin d c deadlines step v with
      | error r u =>
          have raised : RaisesAlone d c w turn r := raisesAlone_of_took forgetful here h hs
          have whole := dispatchAll_cons_error rest hs
          rw [leaves, left_of_error hs] at first
          rw [turns_cons_error rest hs, whole, left_of_error whole]
          exact ⟨.raised [] rfl (fun _ mem => nomatch mem) raised hs, first⟩
      | ok outcome u =>
          have given : GivesAlone d c w turn outcome.output :=
            givesAlone_of_took forgetful here h hs
          have whole := dispatchAll_cons_ok rest hs
          rw [leaves, left_of_ok hs] at first
          rw [turns_cons_ok rest hs] at kept ⊢
          obtain ⟨ended, continues⟩ := ih (fun s hs => undrawn s (List.mem_append_right _ hs)) first
            fun t ht => kept t (List.mem_cons_of_mem _ ht)
          generalize turns d c deadlines rest u = later at ended
          cases hr : dispatchAll d c deadlines rest u with
          | ok outputs z =>
              rw [hr] at ended whole
              rw [left_of_ok hr] at continues
              rw [whole, left_of_ok whole]
              cases ended with
              | gave all alone =>
                  exact ⟨.gave (congrArg (step :: ·) all) (.cons given alone), continues⟩
          | error r z =>
              rw [hr] at ended whole
              rw [left_of_error hr] at continues
              rw [whole, left_of_error whole]
              cases ended with
              | raised front split before alone last =>
                  have all := List.forall_mem_cons.mpr ⟨⟨_, given⟩, before⟩
                  exact ⟨.raised (turn :: front) (congrArg (step :: ·) split) all alone last,
                    continues⟩

/-! ## The step that chooses the branch -/

section Decided

variable {step : Step} {config : Value} {chosen : Bool}
  (decided : Condition.decide c step.condition w = .ok chosen v)
include decided

theorem invoke_conditional_of_none (branch : step.branch chosen = none) :
    invoke .conditional step config c (choose d c step) deadlines w =
      .ok (branchOutput chosen none) v := by
  have looked : (Run.current config : Run σ Value) w = .ok (w.objects.refresh config) w := rfl
  simp only [invoke, bind, EStateM.bind, looked, decided, choose, branch, dispatchBranch]
  rfl

theorem invoke_conditional_of_some {steps : List Step} (branch : step.branch chosen = some steps) :
    invoke .conditional step config c (choose d c step) deadlines w =
      match dispatchAll d c deadlines steps v with
      | .ok outputs u => .ok (branchOutput chosen (some outputs)) u
      | .error r u => .error r u := by
  have looked : (Run.current config : Run σ Value) w = .ok (w.objects.refresh config) w := rfl
  simp only [invoke, bind, EStateM.bind, looked, decided, choose, branch, dispatchBranch]
  cases dispatchAll d c deadlines steps v <;> rfl

end Decided

/-- A condition that leaves values as they are leaves nothing that a step could see. -/
theorem continues_of_decided {condition : Value} {chosen : Bool}
    (decided : Condition.decide c condition w = .ok chosen v) (still : Untouched w v) :
    w.Continues v where
  untouched := still
  now := by
    have moved := Condition.moves_decide frame_now (fun _ _ _ => rfl) c condition w
    rwa [left_of_ok decided] at moved
  chance := by
    have moved := Condition.moves_decide frame_chance (fun _ _ _ => rfl) c condition w
    rwa [left_of_ok decided] at moved

/-- The steps of the branch that is chosen stay apart. -/
theorem invoke_conditional_of_branch (forgetful : d.registry.Forgetful) {step : Step} {chosen : Bool}
    {steps : List Step} (branch : step.branch chosen = some steps)
    (undrawn : ∀ s ∈ Step.listTree steps, s.Undrawn)
    (decided : Condition.decide c step.condition w = .ok chosen t) (still : Untouched w t)
    (kept : ∀ turn ∈ turns d c deadlines steps t, Untouched w (leaves d c (turn.alone w)))
    (config : Value) :
    let invoked := invoke .conditional step config c (choose d c step) deadlines
    EndApart d c w steps (fun outputs => branchOutput chosen (some outputs))
      (turns d c deadlines steps t) (invoked w) ∧ w.Continues (left invoked w) := by
  intro invoked
  have whole : invoked w = _ := invoke_conditional_of_some decided branch
  obtain ⟨apart, continues⟩ :=
    dispatchAll_apart forgetful undrawn (continues_of_decided decided still) kept
  generalize turns d c deadlines steps t = taken at apart ⊢
  cases ended : dispatchAll d c deadlines steps t with
  | ok outputs u =>
      rw [ended] at apart whole
      rw [left_of_ok ended] at continues
      rw [whole, left_of_ok whole]
      cases apart with
      | gave all alone => exact ⟨.gave all alone, continues⟩
  | error r u =>
      rw [ended] at apart whole
      rw [left_of_error ended] at continues
      rw [whole, left_of_error whole]
      cases apart with
      | raised front split before alone last =>
          exact ⟨.raised front split before alone last, continues⟩

/--
A step that chooses a branch keeps the steps of the branch apart, when neither its condition
nor, alone in their turn, the steps change what values hold.  Its output has what each of
them gives alone, in order, or it raises what the first of them raises alone, and none is
dispatched after that one.  The context shows what it showed before, and a step of an
execution leaves a record of its own only, with its own output.
-/
theorem invoke_conditional_apart (forgetful : d.registry.Forgetful) (step : Step) {chosen : Bool}
    (undrawn : ∀ steps, step.branch chosen = some steps -> ∀ s ∈ Step.listTree steps, s.Undrawn)
    (decided : Condition.decide c step.condition w = .ok chosen t) (still : Untouched w t)
    (kept : ∀ steps, step.branch chosen = some steps ->
      ∀ turn ∈ turns d c deadlines steps t, Untouched w (leaves d c (turn.alone w)))
    (config : Value) :
    let invoked := invoke .conditional step config c (choose d c step) deadlines
    (step.branch chosen = none -> invoked w = .ok (branchOutput chosen none) t) ∧
    (∀ steps, step.branch chosen = some steps ->
      EndApart d c w steps (fun outputs => branchOutput chosen (some outputs))
        (turns d c deadlines steps t) (invoked w)) ∧
    c.current (left invoked w).objects = c.current w.objects ∧
    (∀ results q v u, Engine.advance d ⟨c, results⟩ step v = .ok q u ->
      ∃ outcome, d.dispatch c step v = .ok outcome u ∧
        q.context = { c with
          records := c.records ++ [(step.id, ⟨outcome.output, outcome.status, u.fresh.now⟩)] }) := by
  intro invoked
  have apart (steps : List Step) (some : step.branch chosen = some steps) :=
    invoke_conditional_of_branch forgetful some (undrawn steps some) decided still (kept steps some)
      config
  refine ⟨invoke_conditional_of_none decided, fun steps some => (apart steps some).1, ?_,
    fun results q v u advanced => ?_⟩
  · refine c.current_of_untouched ?_
    cases branch : step.branch chosen with
    | none =>
        have skipped : invoked w = _ := invoke_conditional_of_none decided branch
        rw [left_of_ok skipped]
        exact still
    | some steps => exact (apart steps branch).2.untouched
  · obtain ⟨outcome, dispatched, _, rfl⟩ := Engine.advance_ok advanced
    exact ⟨outcome, dispatched, rfl⟩

/-- What is built in, and an executor that gives a number. -/
def numbering : Dispatcher Unit :=
  ⟨.standard, Registry.withBuiltins ⟨[("seven", .plugin Engine.seven)], false⟩⟩

/-- A context in which a step has given a list with one number. -/
def listed : Context :=
  ⟨.dict [], [], [], [], [("a", ⟨.object ⟨false, 0⟩ (.list [.int 1]), StepRecord.completed,
    Engine.dawn.fresh.now⟩)]⟩

/-- The world when that list has its mark. -/
def listedWorld : World Unit :=
  { Engine.dawn with objects := { Objects.empty with next := 1 } }

/-- A step that gives the list. -/
def listAgain : Step :=
  { Step.plain "d" "output" with config := .str "\x7b\x7b steps.a.output \x7d\x7d" }

/-- A step that chooses a branch. -/
def choosing (branch : List Step) : Step :=
  { Step.plain "c" Step.conditionalType with condition := .bool true, ifTrue := some branch }

/-- A step that chooses a branch, and one that gives the list. -/
def nestedBranch : List Step :=
  [choosing [Step.plain "b" "seven"], listAgain]

/-- What an invocation of the step that chooses a branch comes to. -/
def chosenResult (branch : List Step) : EStateM.Result Raised (World Unit) Value :=
  invoke .conditional (choosing branch) .null listed (choose numbering listed (choosing branch)) []
    listedWorld

theorem forgetful_numbering : numbering.registry.Forgetful := by
  intro type id p found
  have handlers : numbering.registry.handlers = [("seven", .plugin Engine.seven),
      ("transform", .builtin .transform), ("output", .builtin .output),
      ("template", .builtin .template), ("conditional", .conditional)] := rfl
  rw [Registry.get] at found
  split at found
  · next handler listed =>
      cases found
      have member := Table.mem_of_get? listed
      simp [handlers] at member
      obtain ⟨-, rfl⟩ := member
      exact fun _ _ _ _ _ => rfl
  · cases found

theorem invoke_conditional_apart_nested :
    EndApart numbering listed listedWorld nestedBranch
      (fun outputs => branchOutput true (some outputs))
      (turns numbering listed [] nestedBranch listedWorld) (chosenResult nestedBranch) := by
  have undrawn : ∀ s ∈ Step.listTree nestedBranch, s.Undrawn := by
    have tree : Step.listTree nestedBranch =
        [choosing [Step.plain "b" "seven"], Step.plain "b" "seven", listAgain] := rfl
    rw [tree]
    simp only [List.forall_mem_cons]
    exact ⟨⟨by decide +kernel, fun _ text => nomatch text⟩,
      ⟨by decide +kernel, fun _ text => nomatch text⟩,
      ⟨by decide +kernel, fun _ text => nomatch text⟩, fun _ none => nomatch none⟩
  have kept : ∀ turn ∈ turns numbering listed [] nestedBranch listedWorld,
      (leaves numbering listed (turn.alone listedWorld)).objects.changes = [] := by
    have none : (turns numbering listed [] nestedBranch listedWorld).all (fun turn =>
        (leaves numbering listed (turn.alone listedWorld)).objects.changes.isEmpty) = true := by
      decide +kernel
    simpa using none
  refine (invoke_conditional_apart forgetful_numbering (choosing nestedBranch) ?_ rfl rfl ?_
    .null).2.1 nestedBranch rfl
  · rintro _ ⟨rfl⟩
    exact undrawn
  · rintro _ ⟨rfl⟩
    exact kept

/-- The numbers in a list when it is looked at. -/
def numbersIn (o : Objects) (v : Value) : List Int :=
  match (o.refresh v).bare with
  | .list items => items.filterMap fun
      | .int n => some n
      | _ => none
  | _ => []

/-- The numbers in the outputs of a branch. -/
def resultNumbers (branch : List Step) : List (List Int) :=
  match chosenResult branch with
  | .ok output u =>
      match output.entries?.bind fun entries => Value.field? entries "results" with
      | some (.list outputs) => outputs.map (numbersIn u.objects)
      | _ => []
  | .error _ _ => []

/-- The numbers in the output of a step that is dispatched alone. -/
def numbersAlone (step : Step) : List Int :=
  match dispatchWithin numbering listed [] step listedWorld with
  | .ok outcome u => numbersIn u.objects outcome.output
  | .error _ _ => []

/-- What a step of a branch appends to a list, the next one gives, which alone gives less. -/
theorem resultNumbers_append :
    resultNumbers [Engine.appendStep, listAgain] = [[], [1, 2]] ∧ numbersAlone listAgain = [1] :=
  ⟨by decide +kernel, by decide +kernel⟩

end Dispatcher

end Workflow
