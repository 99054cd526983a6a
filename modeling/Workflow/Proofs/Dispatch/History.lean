import Workflow.Proofs.Execution.Interference
import Workflow.Proofs.Value.Added

/-!
# Runs and what happened before them

Of its world a run reads the time, chance, the open deadlines and what values hold.  What
was logged and waited for, the identifiers that were issued and what the executors remember
is the past of a world.  Where no token draws an identifier and no executor goes by what it
remembers, a run comes to the same after any past.
-/

namespace Workflow

open Effect
open Reference (Piece Part Bound Resolving unresolved unresolvedItems unresolvedEntries boundPaths
  pathOf pathsOf pathsOf_eq)

variable {σ α β : Type}

/-! ## Tokens that draw no identifier -/

/-- The same time, with so many identifiers issued. -/
def Fresh.withIssued (n : Nat) (f : Fresh) : Fresh :=
  { f with issued := n }

namespace Reference

variable {n : Nat}

/-- What is resolved does not depend on how many identifiers were issued, and issues none. -/
abbrev Unissued (n : Nat) (m : Resolving α) : Prop :=
  Blind (Fresh.withIssued n) m

theorem unissued_liftOutcome (r : Outcome α) : Unissued n (liftOutcome r) := by
  cases r with
  | ok a => exact blind_pure a
  | error e => exact blind_throw e

theorem unissued_valueAt? (scope : Value) {path : String} (h : path ≠ "uuid") :
    Unissued n (valueAt? scope path) := by
  have other : (path == "uuid") = false := beq_eq_false_iff_ne.mpr h
  unfold valueAt?
  rw [other]
  split
  · exact mirrors_get fun _ => blind_pure _
  · exact unissued_liftOutcome _

theorem ne_and_not_mem_of_token {inside : List Char} {rest : List Piece}
    (h : "uuid" ∉ (Piece.token inside :: rest).filterMap Piece.path?) :
    pathOf inside ≠ "uuid" ∧ "uuid" ∉ rest.filterMap Piece.path? :=
  ⟨fun same => h (same ▸ List.mem_cons_self), fun mem => h (List.mem_cons_of_mem _ mem)⟩

theorem unissued_piecesText (scope : Value) (ps : List Piece)
    (h : "uuid" ∉ ps.filterMap Piece.path?) : Unissued n (piecesText scope ps) := by
  induction ps with
  | nil => exact blind_pure []
  | cons p rest ih =>
      cases p with
      | char c => exact (blind_pure [c]).bind fun _ => (ih h).map _
      | token inside =>
          have ⟨here, later⟩ := ne_and_not_mem_of_token h
          refine Mirrors.bind ((unissued_valueAt? scope here).bind fun v => ?_) fun _ =>
            (ih later).map _
          cases v with
          | none => exact blind_pure _
          | some v => exact (unissued_liftOutcome _).map _

theorem unissued_resolveText (scope : Value) {text : String} (h : "uuid" ∉ pathsOf text) :
    Unissued n (resolveText scope text) := by
  rw [pathsOf_eq] at h
  unfold resolveText
  split
  · next inside heq =>
      rw [heq] at h
      refine (unissued_valueAt? scope (ne_and_not_mem_of_token h).1).bind fun v => ?_
      cases v <;> exact blind_pure _
  · exact (unissued_piecesText scope _ h).map _

mutual

/-- A value without such tokens resolves to the same, however many identifiers were issued. -/
theorem unissued_resolve (scope v : Value) (h : "uuid" ∉ unresolved v) :
    Unissued n (resolve scope v) := by
  cases v with
  | str text => exact unissued_resolveText scope h
  | list items => exact (unissued_resolveItems scope items h).map _
  | tuple items => exact (unissued_resolveItems scope items h).map _
  | dict entries => exact (unissued_resolveEntries scope entries h).map _
  | object mark content =>
      have inner := unissued_resolve scope content h
      cases content <;> first | exact blind_pure _ | exact inner
  | _ => exact blind_pure _

theorem unissued_resolveItems (scope : Value) (items : List Value)
    (h : "uuid" ∉ unresolvedItems items) : Unissued n (resolveItems scope items) := by
  cases items with
  | nil => exact blind_pure []
  | cons x rest =>
      have ⟨here, later⟩ := not_or.mp (mt List.mem_append.mpr h)
      exact (unissued_resolve scope x here).bind fun _ =>
        (unissued_resolveItems scope rest later).map _

theorem unissued_resolveEntries (scope : Value) (entries : List (Value × Value))
    (h : "uuid" ∉ unresolvedEntries entries) : Unissued n (resolveEntries scope entries) := by
  match entries with
  | [] => exact blind_pure []
  | (k, v) :: rest =>
      have ⟨here, later⟩ := not_or.mp (mt List.mem_append.mpr h)
      exact (unissued_resolve scope v here).bind fun _ =>
        (unissued_resolveEntries scope rest later).map _

end

theorem unissued_bindLiteral (scope : Value) (b : Bound) (ps : List Piece)
    (h : "uuid" ∉ ps.filterMap Piece.path?) : Unissued n (bindLiteral scope b ps) := by
  induction ps generalizing b with
  | nil => exact blind_pure _
  | cons p rest ih =>
      cases p with
      | char c => exact (ih b h).map _
      | token inside =>
          have ⟨here, later⟩ := ne_and_not_mem_of_token h
          refine (unissued_valueAt? scope here).bind fun v => ?_
          cases v with
          | none => exact (ih _ later).map _
          | some v => exact (unissued_liftOutcome _).bind fun _ => (ih b later).map _

theorem unissued_bindPart (scope : Value) (reserved : List String) (b : Bound) (p : Part)
    (h : "uuid" ∉ p.paths) : Unissued n (bindPart scope reserved b p) := by
  cases p with
  | char c => exact blind_pure _
  | token inside =>
      have here : pathOf inside ≠ "uuid" := fun same => h (same ▸ List.mem_cons_self)
      refine (unissued_valueAt? scope here).bind fun v => ?_
      cases v <;> exact blind_pure _
  | quoted q body =>
      simp only [bindPart]
      split
      · exact (unissued_bindLiteral scope b (pieces body) h).map _
      · exact blind_pure _

theorem unissued_bind (scope : Value) (reserved : List String) {expression : String}
    (h : "uuid" ∉ boundPaths expression) : Unissued n (bind scope reserved expression) := by
  have all (b : Bound) (ps : List Part) (h : "uuid" ∉ ps.flatMap Part.paths) :
      Unissued n (bindParts scope reserved b ps) := by
    induction ps generalizing b with
    | nil => exact blind_pure b
    | cons p rest ih =>
        have ⟨here, later⟩ := not_or.mp (mt List.mem_append.mpr h)
        exact (unissued_bindPart scope reserved b p here).bind fun b => ih b later
  exact all .empty _ h

end Reference

/-! ## The past of a world -/

/-- What happened in a world so far that shows in no value. -/
structure Past (σ : Type) where
  issued : Nat
  log : List LogLine
  delays : List Float
  executors : σ

namespace World

/-- What happened in a world so far. -/
def past (w : World σ) : Past σ :=
  ⟨w.fresh.issued, w.log, w.delays, w.executors⟩

/-- The same world after another past. -/
def after (p : Past σ) (w : World σ) : World σ :=
  { w with fresh := w.fresh.withIssued p.issued, log := p.log, delays := p.delays,
           executors := p.executors }

end World

namespace Run

/-- A run comes to the same after any past. -/
def Oblivious (m : Run σ α) : Prop :=
  ∀ p w, ∃ q, m (w.after p) = changed (World.after q) (m w)

theorem oblivious_pure (a : α) : Oblivious (pure a : Run σ α) :=
  fun p _ => ⟨p, rfl⟩

theorem oblivious_throw (r : Raised) : Oblivious (throw r : Run σ α) :=
  fun p _ => ⟨p, rfl⟩

theorem Oblivious.bind {m : Run σ α} {k : α -> Run σ β} (hm : Oblivious m)
    (hk : ∀ a, Oblivious (k a)) : Oblivious (m >>= k) := by
  intro p w
  obtain ⟨q, same⟩ := hm p w
  simp only [Bind.bind, EStateM.bind, same]
  cases m w with
  | ok a t => exact hk a q t
  | error r t => exact ⟨q, rfl⟩

theorem Oblivious.map {m : Run σ α} (hm : Oblivious m) (f : α -> β) :
    Oblivious (do pure (f (<- m))) :=
  hm.bind fun a => oblivious_pure (f a)

/-- What is read of the world must not be its past. -/
theorem oblivious_get {k : World σ -> Run σ β} (same : ∀ p w, k (w.after p) = k w)
    (hk : ∀ w, Oblivious (k w)) : Oblivious (get >>= k) := by
  intro p w
  have read (v : World σ) : (get >>= k) v = k v v := rfl
  rw [read, read, same]
  exact hk w p w

theorem oblivious_ofExcept (r : Except Raised α) : Oblivious (ofExcept r : Run σ α) := by
  cases r with
  | ok a => exact oblivious_pure a
  | error e => exact oblivious_throw e

/-- What follows a result only matters when there is one. -/
theorem oblivious_ofResult_bind {r : Except Error α} {k : α -> Run σ β}
    (hk : ∀ a, r = .ok a -> Oblivious (k a)) : Oblivious (ofResult r >>= k) := by
  cases r with
  | ok a => exact hk a rfl
  | error e => exact oblivious_throw (.error e)

theorem oblivious_attempt {m : Run σ α} (hm : Oblivious m) : Oblivious (attempt m) := by
  intro p w
  obtain ⟨q, same⟩ := hm p w
  refine ⟨q, ?_⟩
  simp only [attempt, same]
  cases m w <;> rfl

theorem oblivious_resolving {m : Resolving α} (hm : ∀ n, Reference.Unissued n m) :
    Oblivious (resolving m : Run σ α) := by
  intro p w
  have same := hm p.issued w.fresh
  refine ⟨p, ?_⟩
  simp only [resolving, World.after, same]
  cases m w.fresh <;> rfl

theorem oblivious_tried {ε : Type} (m : EStateM ε Objects α) :
    Oblivious (tried m : Run σ (Except ε α)) := by
  intro p w
  refine ⟨p, ?_⟩
  simp only [tried, World.after]
  cases m w.objects <;> rfl

theorem oblivious_current (v : Value) : Oblivious (current v : Run σ Value) :=
  oblivious_get (fun _ _ => rfl) fun _ => oblivious_pure _

theorem oblivious_own (v : Value) : Oblivious (own v : Run σ Value) :=
  fun p _ => ⟨p, rfl⟩

theorem oblivious_ownParts (v : Value) : Oblivious (ownParts v : Run σ Value) :=
  fun p _ => ⟨p, rfl⟩

theorem oblivious_log (level : LogLevel) (message : String) :
    Oblivious (log level message : Run σ Unit) :=
  fun p _ => ⟨{ p with log := p.log ++ [⟨level, message⟩] }, rfl⟩

theorem oblivious_wait (delay : Float) : Oblivious (wait delay : Run σ Unit) :=
  fun p _ => ⟨{ p with delays := p.delays ++ [delay] }, rfl⟩

theorem oblivious_now : Oblivious (now : Run σ DateTime) :=
  oblivious_get (fun _ _ => rfl) fun _ => oblivious_pure _

end Run

open Run

/-- A condition whose tokens draw no identifier is decided the same after any past. -/
theorem Condition.oblivious_decide (c : Context) {condition : Value}
    (h : ∀ text, condition = .str text -> "uuid" ∉ boundPaths text) :
    Oblivious (decide c condition : Run σ Bool) := by
  have bound (text : String) (scope : List (Value × Value)) (b : Bound) :
      Oblivious (decideBound text scope b : Run σ Bool) := by
    unfold decideBound
    split
    · refine (oblivious_tried _).bind fun r => ?_
      cases r with
      | ok answer => exact oblivious_pure answer
      | error e =>
          dsimp only
          split
          · exact (oblivious_log _ _).bind fun _ => oblivious_pure _
          · exact oblivious_throw _
    · exact (oblivious_log _ _).bind fun _ => oblivious_pure _
  cases condition with
  | str text =>
      simp only [decide]
      split
      · exact oblivious_throw _
      · exact oblivious_get (fun _ _ => rfl) fun w =>
          (oblivious_resolving fun _ => Reference.unissued_bind _ _ (h text rfl)).bind fun b =>
            bound text _ b
  | null => exact oblivious_throw _
  | _ => exact oblivious_pure _

/-! ## Attempts and deadlines -/

namespace Attempt

variable (s : Settings) (step : Step) (max attempt : Int)

theorem oblivious_settle (e : Error) :
    Oblivious (settle step max attempt e : Run σ Attempted) := by
  have raised : Oblivious (Run.fail e : Run σ Attempted) := oblivious_throw _
  unfold settle
  split
  · exact (oblivious_log _ _).bind fun _ => oblivious_pure _
  · dsimp only
    split
    · exact (oblivious_log _ _).bind fun _ => raised
    · exact raised

theorem oblivious_pause (r : Raised) (e : Error) :
    Oblivious (pause s step max attempt r e : Run σ Unit) :=
  oblivious_get (fun _ _ => rfl) fun _ => (oblivious_ofExcept _).bind fun _ =>
    (oblivious_log _ _).bind fun _ => oblivious_wait _

variable {invoke : Run σ Value} (h : Oblivious invoke)
include h

theorem oblivious_once {onFailure : Raised -> Error -> Run σ Attempted}
    (hf : ∀ r e, Oblivious (onFailure r e)) : Oblivious (once step attempt invoke onFailure) := by
  refine (oblivious_attempt h).bind fun r => ?_
  cases r with
  | ok v => exact oblivious_pure _
  | error r =>
      dsimp only
      split
      · exact oblivious_throw _
      · exact hf r _

theorem oblivious_startingAt (left : Nat) :
    Oblivious (startingAt s step max invoke left attempt) := by
  induction left generalizing attempt with
  | zero => exact oblivious_once step attempt h fun _ e => oblivious_settle step max attempt e
  | succ left ih =>
      exact oblivious_once step attempt h fun r e =>
        (oblivious_pause s step max attempt r e).bind fun _ => ih (attempt + 1)

theorem oblivious_run : Oblivious (run s step invoke) :=
  oblivious_startingAt s step _ 1 h _

end Attempt

/-- What an executor from outside gives does not depend on what it remembers. -/
def Plugin.Forgetful (p : Plugin σ) : Prop :=
  ∀ step config c s t, (p.invoke step config c s).1 = (p.invoke step config c t).1

namespace Deadline

theorem oblivious_invoke {p : Plugin σ} (hp : p.Forgetful) (step : Step) (config : Value)
    (c : Context) (deadlines : List Float) : Oblivious (invoke p step config c deadlines) := by
  intro past w
  let seen := c.current w.objects
  have same := hp step config seen past.executors w.executors
  refine ⟨{ past with executors := (p.invoke step config seen past.executors).2 }, ?_⟩
  have objects : (w.after past).objects = w.objects := rfl
  have executors : (w.after past).executors = past.executors := rfl
  simp only [invoke, objects, executors, same, seen]
  cases (p.invoke step config (c.current w.objects) w.executors).1 with
  | value v => rfl
  | raised r => rfl
  | endless =>
      simp only [cutOff]
      cases earliest? deadlines <;> rfl

theorem oblivious_within (step : Step) (deadlines : List Float) {run : List Float -> Run σ Value}
    (h : ∀ ds, Oblivious (run ds)) : Oblivious (within step deadlines run) := by
  unfold within
  split
  · exact h deadlines
  · next seconds _ =>
      intro p w
      obtain ⟨q, same⟩ := h (deadlines ++ [w.elapsed + seconds]) p w
      refine ⟨q, ?_⟩
      -- neither the time nor the deadline that ran out is of the past
      have elapsed : (w.after p).elapsed = w.elapsed := rfl
      simp only [elapsed, same]
      cases run (deadlines ++ [w.elapsed + seconds]) w with
      | ok v t => rfl
      | error r t =>
          have expired : (t.after q).expired = t.expired := rfl
          simp only [changed, expired]
          by_cases own : t.expired == some deadlines.length
          · rw [if_pos own, if_pos own]
            rfl
          · rw [if_neg own, if_neg own]
            by_cases late : saysTimeout r
            · rw [if_pos late, if_pos late]
            · rw [if_neg late, if_neg late]

end Deadline

/-! ## Dispatching -/

/-- No executor from outside goes by what it remembers. -/
def Registry.Forgetful (r : Registry σ) : Prop :=
  ∀ type id p, r.get type id = .ok (.plugin p) -> p.Forgetful

/-- No token of a step draws an identifier.  The tokens of a condition are those bound in it. -/
structure Step.Undrawn (step : Step) : Prop where
  config : "uuid" ∉ unresolved step.config
  condition : ∀ text, step.condition = .str text -> "uuid" ∉ boundPaths text

namespace Dispatcher

variable {d : Dispatcher σ} (c : Context)

theorem oblivious_configOf {step : Step} (h : step.Undrawn) :
    Oblivious (configOf c step : Run σ Value) :=
  (oblivious_current _).bind fun scope =>
    (oblivious_resolving fun _ => Reference.unissued_resolve scope step.config h.config).bind
      oblivious_ownParts

theorem oblivious_invoke {h : Handler σ} (hp : ∀ p, h = .plugin p -> p.Forgetful) {step : Step}
    (undrawn : step.Undrawn) (config : Value)
    {choose : List Float -> Bool -> Run σ (Option (List Value))}
    (chosen : ∀ ds b, Oblivious (choose ds b)) (deadlines : List Float) :
    Oblivious (invoke h step config c choose deadlines) := by
  refine (oblivious_current config).bind fun config => ?_
  cases h with
  | builtin b => exact (oblivious_tried _).bind oblivious_ofExcept
  | plugin p => exact Deadline.oblivious_invoke (hp p rfl) step config c deadlines
  | conditional =>
      exact (Condition.oblivious_decide c undrawn.condition).bind fun b => (chosen deadlines b).map _

theorem oblivious_runStep (forgetful : d.registry.Forgetful) {step : Step} (undrawn : step.Undrawn)
    {choose : List Float -> Bool -> Run σ (Option (List Value))}
    (chosen : ∀ ds b, Oblivious (choose ds b)) (deadlines : List Float) :
    Oblivious (runStep d c deadlines step choose) := by
  refine oblivious_now.bind fun _ => oblivious_ofResult_bind fun handler found => ?_
  refine (oblivious_configOf c undrawn).bind fun config => ?_
  refine (Attempt.oblivious_run d.settings step ?_).bind fun attempted =>
    (oblivious_own _).bind fun _ => oblivious_now.map _
  have plugin (p : Plugin σ) (same : handler = .plugin p) : p.Forgetful :=
    forgetful _ _ p (same ▸ found)
  exact Deadline.oblivious_within step deadlines fun ds =>
    oblivious_invoke c plugin undrawn config chosen ds

mutual

/-- A step, with the steps of its branches, is dispatched the same after any past. -/
theorem oblivious_dispatchWithin (forgetful : d.registry.Forgetful) (deadlines : List Float)
    (step : Step) (h : ∀ s ∈ step.tree, s.Undrawn) :
    Oblivious (dispatchWithin d c deadlines step) := by
  match step, h with
  | ⟨id, type, description, config, onError, retry, timeout, condition, ifTrue, ifFalse, unread⟩,
    h =>
      rw [Step.tree] at h
      have branches (s : Step) (hs : s ∈ Step.branchTree ifTrue ++ Step.branchTree ifFalse) :
          s.Undrawn := h s (List.mem_cons_of_mem _ hs)
      simp only [dispatchWithin]
      refine oblivious_runStep c forgetful (h _ List.mem_cons_self) (fun ds chosen => ?_) deadlines
      split
      · exact oblivious_dispatchBranch forgetful ds ifTrue fun s hs =>
          branches s (List.mem_append_left _ hs)
      · exact oblivious_dispatchBranch forgetful ds ifFalse fun s hs =>
          branches s (List.mem_append_right _ hs)

theorem oblivious_dispatchBranch (forgetful : d.registry.Forgetful) (deadlines : List Float)
    (branch : Option (List Step)) (h : ∀ s ∈ Step.branchTree branch, s.Undrawn) :
    Oblivious (dispatchBranch d c deadlines branch) := by
  match branch, h with
  | none, _ =>
      simp only [dispatchBranch]
      exact oblivious_pure none
  | some steps, h =>
      rw [Step.branchTree] at h
      simp only [dispatchBranch]
      exact (oblivious_dispatchAll forgetful deadlines steps h).map _

theorem oblivious_dispatchAll (forgetful : d.registry.Forgetful) (deadlines : List Float)
    (steps : List Step) (h : ∀ s ∈ Step.listTree steps, s.Undrawn) :
    Oblivious (dispatchAll d c deadlines steps) := by
  match steps, h with
  | [], _ =>
      simp only [dispatchAll]
      exact oblivious_pure []
  | step :: rest, h =>
      rw [Step.listTree] at h
      simp only [dispatchAll]
      have first := oblivious_dispatchWithin forgetful deadlines step fun s hs =>
        h s (List.mem_append_left _ hs)
      have others := oblivious_dispatchAll forgetful deadlines rest fun s hs =>
        h s (List.mem_append_right _ hs)
      exact first.bind fun outcome => others.map _

end

end Dispatcher

end Workflow
