import Workflow.Engine

/-!
# What a run leaves

A run changes its world in few ways: it issues identifiers, gives marks to new values,
adds to the log and to the delays, and lets executors work.  A relation that each of
these ways keeps is kept by the whole run, however it ends.
-/

namespace Workflow

namespace Effect

variable {ε σ α β : Type} {R : σ -> σ -> Prop}

/-- The state that a computation leaves, whether it ends well or not. -/
def left (m : EStateM ε σ α) (s : σ) : σ :=
  match m s with
  | .ok _ s => s
  | .error _ s => s

theorem left_of_ok {m : EStateM ε σ α} {s t : σ} {a : α} (h : m s = .ok a t) : left m s = t := by
  simp [left, h]

theorem left_of_error {m : EStateM ε σ α} {s t : σ} {e : ε} (h : m s = .error e t) :
    left m s = t := by
  simp [left, h]

/-- A result comes from what follows the result of the first computation. -/
theorem bind_ok {m : EStateM ε σ α} {k : α -> EStateM ε σ β} {s u : σ} {b : β}
    (h : (m >>= k) s = .ok b u) : ∃ a t, m s = .ok a t ∧ k a t = .ok b u := by
  simp only [bind, EStateM.bind] at h
  cases hm : m s with
  | error e t =>
      rw [hm] at h
      cases h
  | ok a t =>
      rw [hm] at h
      exact ⟨a, t, rfl, h⟩

theorem ok_bind {m : EStateM ε σ α} {k : α -> EStateM ε σ β} {s t u : σ} {a : α} {b : β}
    (first : m s = .ok a t) (second : k a t = .ok b u) : (m >>= k) s = .ok b u := by
  simp only [bind, EStateM.bind, first, second]

/-- What is left is what the continuation leaves, or what was left before it could start. -/
theorem left_bind (m : EStateM ε σ α) (k : α -> EStateM ε σ β) (s : σ) :
    (∃ a t, m s = .ok a t ∧ left (m >>= k) s = left (k a) t) ∨
    (∃ e t, m s = .error e t ∧ left (m >>= k) s = t) := by
  cases h : m s with
  | ok a t =>
      refine .inl ⟨a, t, rfl, ?_⟩
      simp [left, bind, EStateM.bind, h]
  | error e t =>
      refine .inr ⟨e, t, rfl, ?_⟩
      simp [left, bind, EStateM.bind, h]

/-- A computation leaves a state that is related to the one it starts from. -/
def Moves (R : σ -> σ -> Prop) (m : EStateM ε σ α) : Prop :=
  ∀ s, R s (left m s)

/-- A relation that computations keep one after another. -/
structure Chained (R : σ -> σ -> Prop) : Prop where
  refl : ∀ s, R s s
  trans : ∀ {s t u}, R s t -> R t u -> R s u

namespace Chained

variable (C : Chained R)
include C

theorem pure (a : α) : Moves R (pure a : EStateM ε σ α) :=
  fun s => C.refl s

theorem throw (e : ε) : Moves R (throw e : EStateM ε σ α) :=
  fun s => C.refl s

theorem get : Moves R (get : EStateM ε σ σ) :=
  fun s => C.refl s

theorem bind {m : EStateM ε σ α} {k : α -> EStateM ε σ β} (hm : Moves R m)
    (hk : ∀ a, Moves R (k a)) : Moves R (m >>= k) := by
  intro s
  have first := hm s
  rcases left_bind m k s with ⟨a, t, hr, hl⟩ | ⟨e, t, hr, hl⟩
  · rw [left_of_ok hr] at first
    rw [hl]
    exact C.trans first (hk a t)
  · rw [left_of_error hr] at first
    rw [hl]
    exact first

/-- The result may be changed as long as the state is not. -/
theorem map {m : EStateM ε σ α} (hm : Moves R m) (f : α -> β) :
    Moves R (do Pure.pure (f (<- m)) : EStateM ε σ β) :=
  C.bind hm fun a => C.pure (f a)

end Chained

end Effect

open Effect

/-! ## Resolving tokens -/

/-- Nothing was drawn but identifiers. -/
def Fresh.Drawn (f g : Fresh) : Prop :=
  ∃ n, g = { f with issued := f.issued + n }

theorem Fresh.drawn_chained : Chained Fresh.Drawn where
  refl f := ⟨0, rfl⟩
  trans := by
    rintro f _ _ ⟨m, rfl⟩ ⟨n, rfl⟩
    exact ⟨m + n, by simp [Nat.add_assoc]⟩

namespace Reference

open Fresh (Drawn drawn_chained)

theorem draws_liftOutcome {α : Type} (r : Outcome α) : Moves Drawn (liftOutcome r) := by
  cases r with
  | ok a => exact drawn_chained.pure a
  | error e => exact drawn_chained.throw e

theorem draws_valueAt? (scope : Value) (path : String) : Moves Drawn (valueAt? scope path) := by
  unfold valueAt?
  split
  · exact drawn_chained.map drawn_chained.get _
  · split
    · exact fun f => ⟨1, rfl⟩
    · exact draws_liftOutcome _

theorem draws_pieceText (scope : Value) (p : Piece) : Moves Drawn (pieceText scope p) := by
  cases p with
  | char c => exact drawn_chained.pure [c]
  | token inside =>
      refine drawn_chained.bind (draws_valueAt? scope (pathOf inside)) fun v => ?_
      cases v with
      | none => exact drawn_chained.pure _
      | some v => exact drawn_chained.map (draws_liftOutcome _) _

theorem draws_piecesText (scope : Value) (ps : List Piece) :
    Moves Drawn (piecesText scope ps) := by
  induction ps with
  | nil => exact drawn_chained.pure []
  | cons p rest ih =>
      exact drawn_chained.bind (draws_pieceText scope p) fun _ => drawn_chained.map ih _

theorem draws_resolveText (scope : Value) (s : String) :
    Moves Drawn (resolveText scope s) := by
  unfold resolveText
  split
  · refine drawn_chained.bind (draws_valueAt? scope _) fun v => ?_
    cases v <;> exact drawn_chained.pure _
  · exact drawn_chained.map (draws_piecesText scope _) _

mutual

theorem draws_resolve (scope v : Value) : Moves Drawn (resolve scope v) := by
  cases v with
  | str s => exact draws_resolveText scope s
  | list items => exact drawn_chained.map (draws_resolveItems scope items) _
  | tuple items => exact drawn_chained.map (draws_resolveItems scope items) _
  | dict entries => exact drawn_chained.map (draws_resolveEntries scope entries) _
  | object mark content =>
      have inner := draws_resolve scope content
      cases content <;> first | exact drawn_chained.pure _ | exact inner
  | _ => exact drawn_chained.pure _

theorem draws_resolveItems (scope : Value) (items : List Value) :
    Moves Drawn (resolveItems scope items) := by
  cases items with
  | nil => exact drawn_chained.pure []
  | cons x rest =>
      refine drawn_chained.bind (draws_resolve scope x) fun _ => ?_
      exact drawn_chained.map (draws_resolveItems scope rest) _

theorem draws_resolveEntries (scope : Value) (entries : List (Value × Value)) :
    Moves Drawn (resolveEntries scope entries) := by
  match entries with
  | [] => exact drawn_chained.pure []
  | (k, v) :: rest =>
      exact drawn_chained.bind (draws_resolve scope v) fun _ =>
        drawn_chained.map (draws_resolveEntries scope rest) _

end

theorem draws_bindLiteral (scope : Value) (b : Bound) (ps : List Piece) :
    Moves Drawn (bindLiteral scope b ps) := by
  induction ps generalizing b with
  | nil => exact drawn_chained.pure _
  | cons p rest ih =>
      cases p with
      | char c => exact drawn_chained.map (ih b) _
      | token inside =>
          refine drawn_chained.bind (draws_valueAt? scope (pathOf inside)) fun v => ?_
          cases v with
          | none => exact drawn_chained.map (ih _) _
          | some v =>
              exact drawn_chained.bind (draws_liftOutcome _) fun _ => drawn_chained.map (ih b) _

theorem draws_bindPart (scope : Value) (reserved : List String) (b : Bound) (p : Part) :
    Moves Drawn (bindPart scope reserved b p) := by
  cases p with
  | char c => exact drawn_chained.pure _
  | token inside =>
      refine drawn_chained.bind (draws_valueAt? scope (pathOf inside)) fun v => ?_
      cases v <;> exact drawn_chained.pure _
  | quoted q body =>
      simp only [bindPart]
      split
      · exact drawn_chained.map (draws_bindLiteral scope b (pieces body)) _
      · exact drawn_chained.pure _

theorem draws_bindParts (scope : Value) (reserved : List String) (b : Bound) (ps : List Part) :
    Moves Drawn (bindParts scope reserved b ps) := by
  induction ps generalizing b with
  | nil => exact drawn_chained.pure b
  | cons p rest ih => exact drawn_chained.bind (draws_bindPart scope reserved b p) fun b => ih b

end Reference

/-! ## Runs -/

variable {σ : Type}

/-- A relation between worlds that all parts of a run but the executors keep. -/
structure World.Frame (R : World σ -> World σ -> Prop) : Prop extends Chained R where
  issued : ∀ w n, R w { w with fresh := { w.fresh with issued := w.fresh.issued + n } }
  marked : ∀ w next nextAdded, R w { w with objects := { w.objects with next, nextAdded } }
  logged : ∀ w level message, R w (w.logged level message)
  waited : ∀ w delay, R w { w with delays := w.delays ++ [delay] }
  timed : ∀ w elapsed expired, R w { w with elapsed, expired }

/-- An executor keeps a relation between worlds, whatever it is invoked with. -/
def Handler.Moves (R : World σ -> World σ -> Prop) : Handler σ -> Prop
  | .builtin b => ∀ step config c w,
      R w { w with objects := left (b.run step config c) w.objects }
  | .conditional => ∀ text scope w,
      R w { w with objects := left (Expression.evaluateBool text scope) w.objects }
  | .plugin p => ∀ step config c w,
      R w { w with executors := (p.invoke step config c w.executors).2 }

/-- All executors of a registry keep a relation between worlds. -/
def Registry.Moves (R : World σ -> World σ -> Prop) (r : Registry σ) : Prop :=
  ∀ type id h, r.get type id = .ok h -> h.Moves R

section Frame

variable {R : World σ -> World σ -> Prop} (F : World.Frame R)
include F

namespace Run

variable {α : Type}

theorem moves_ofExcept (r : Except Raised α) : Moves R (ofExcept r : Run σ α) := by
  cases r with
  | ok a => exact F.pure a
  | error e => exact F.throw e

/-- What follows a result only matters when there is one. -/
theorem moves_ofResult_bind {β : Type} {r : Except Error α} {k : α -> Run σ β}
    (hk : ∀ a, r = .ok a -> Moves R (k a)) : Moves R (ofResult r >>= k) := by
  cases r with
  | ok a => exact hk a rfl
  | error e => exact F.throw (Raised.error e)

theorem moves_resolving {m : Reference.Resolving α} (hm : Moves Fresh.Drawn m) :
    Moves R (resolving m : Run σ α) := by
  intro w
  obtain ⟨n, drawn⟩ := hm w.fresh
  have step := F.issued w n
  unfold resolving
  cases hr : m w.fresh with
  | ok a f => rw [left_of_ok hr] at drawn; simpa [left, hr, drawn] using step
  | error e f => rw [left_of_error hr] at drawn; simpa [left, hr, drawn] using step

omit F in
theorem left_tried {ε : Type} (m : EStateM ε Objects α) (w : World σ) :
    left (tried m : Run σ (Except ε α)) w = { w with objects := left m w.objects } := by
  cases hr : m w.objects <;> simp [tried, left, hr]

omit F in
theorem moves_tried {ε : Type} {m : EStateM ε Objects α}
    (hm : ∀ w, R w { w with objects := left m w.objects }) :
    Moves R (tried m : Run σ (Except ε α)) := by
  intro w
  rw [left_tried]
  exact hm w

theorem moves_changing {m : EStateM Raised Objects α}
    (hm : ∀ w, R w { w with objects := left m w.objects }) :
    Moves R (changing m : Run σ α) :=
  F.bind (moves_tried hm) fun r => moves_ofExcept F r

omit F in
theorem moves_attempt {m : Run σ α} (hm : Moves R m) : Moves R (attempt m) := by
  intro w
  have tried := hm w
  unfold attempt
  cases hr : m w with
  | ok a v => rw [left_of_ok hr] at tried; simpa [left, hr] using tried
  | error e v => rw [left_of_error hr] at tried; simpa [left, hr] using tried

theorem moves_now : Moves R (now : Run σ DateTime) :=
  F.map F.get _

theorem moves_current (v : Value) : Moves R (current v : Run σ Value) :=
  F.map F.get _

theorem moves_own (v : Value) : Moves R (own v : Run σ Value) :=
  fun w => F.marked w _ w.objects.nextAdded

theorem moves_ownParts (v : Value) : Moves R (ownParts v : Run σ Value) := by
  intro w
  have marked (next : Nat) : R w { w with objects := { w.objects with next } } :=
    F.marked w next w.objects.nextAdded
  cases v <;> exact marked _

theorem moves_log (level : LogLevel) (message : String) :
    Moves R (log level message : Run σ Unit) :=
  fun w => F.logged w level message

end Run

theorem Condition.moves_decide
    (h : ∀ text scope w,
      R w { w with objects := left (Expression.evaluateBool text scope) w.objects })
    (c : Context) (condition : Value) : Moves R (decide c condition : Run σ Bool) := by
  have bound (text : String) (scope : List (Value × Value)) (b : Reference.Bound) :
      Moves R (decideBound text scope b : Run σ Bool) := by
    unfold decideBound
    split
    · refine F.bind (Run.moves_tried (h _ _)) fun r => ?_
      cases r with
      | ok answer => exact F.pure answer
      | error e =>
          dsimp only
          split
          · exact F.bind (Run.moves_log F _ _) fun _ => F.pure _
          · exact F.throw _
    · exact F.bind (Run.moves_log F _ _) fun _ => F.pure _
  unfold decide
  split
  · exact F.pure _
  · exact F.throw _
  · split
    · exact F.throw _
    · exact F.bind F.get fun w =>
        F.bind (Run.moves_resolving F (Reference.draws_bindParts _ _ _ _)) fun b => bound _ _ b
  · exact F.pure _

/-! ## Dispatching -/

namespace Attempt

theorem moves_settle (step : Step) (max attempt : Int) (e : Error) :
    Moves R (settle step max attempt e : Run σ Attempted) := by
  have raised : Moves R (Run.fail e : Run σ Attempted) := F.throw _
  unfold settle
  split
  · exact F.map (Run.moves_log F _ _) _
  · dsimp only
    split
    · exact F.bind (Run.moves_log F _ _) fun _ => raised
    · exact raised

theorem moves_once (step : Step) (attempt : Int) {invoke : Run σ Value}
    {onFailure : Raised -> Error -> Run σ Attempted} (hi : Moves R invoke)
    (hf : ∀ r e, Moves R (onFailure r e)) : Moves R (once step attempt invoke onFailure) := by
  refine F.bind (Run.moves_attempt hi) fun r => ?_
  cases r with
  | ok v => exact F.pure _
  | error r =>
      dsimp only
      split
      · exact F.throw _
      · exact hf r _

theorem moves_pause (s : Settings) (step : Step) (max attempt : Int) (r : Raised) (e : Error) :
    Moves R (pause s step max attempt r e : Run σ Unit) :=
  F.bind F.get fun _ => F.bind (Run.moves_ofExcept F _) fun delay =>
    F.bind (Run.moves_log F _ _) fun _ => fun w => F.waited w delay

theorem moves_startingAt (s : Settings) (step : Step) (max : Int) {invoke : Run σ Value}
    (hi : Moves R invoke) (left : Nat) (attempt : Int) :
    Moves R (startingAt s step max invoke left attempt) := by
  induction left generalizing attempt with
  | zero => exact moves_once F step attempt hi fun _ e => moves_settle F step max attempt e
  | succ left ih =>
      exact moves_once F step attempt hi fun r e =>
        F.bind (moves_pause F s step max attempt r e) fun _ => ih (attempt + 1)

end Attempt

namespace Deadline

theorem moves_invoke {p : Plugin σ} (hp : (Handler.plugin p).Moves R) (step : Step)
    (config : Value) (c : Context) (deadlines : List Float) :
    Moves R (invoke p step config c deadlines) := by
  intro w
  have invoked := hp step config (c.current w.objects) w
  rcases hi : p.invoke step config (c.current w.objects) w.executors with ⟨ending, executors⟩
  rw [hi] at invoked
  cases ending with
  | value v => simpa [invoke, left, hi] using invoked
  | raised r => simpa [invoke, left, hi] using invoked
  | endless =>
      simp only [invoke, left, hi, cutOff]
      split
      · exact invoked
      · exact F.trans invoked (F.timed _ _ _)

theorem moves_within (step : Step) (deadlines : List Float) {run : List Float -> Run σ Value}
    (hr : ∀ ds, Moves R (run ds)) : Moves R (within step deadlines run) := by
  unfold within
  split
  · exact hr deadlines
  · next seconds _ =>
      intro w
      have ran := hr (deadlines ++ [w.elapsed + seconds]) w
      cases h : run (deadlines ++ [w.elapsed + seconds]) w with
      | ok v t =>
          rw [left_of_ok h] at ran
          simpa [left, h] using ran
      | error r t =>
          rw [left_of_error h] at ran
          simp only [left, h]
          by_cases own : t.expired == some deadlines.length
          · rw [if_pos own]
            exact F.trans ran (F.timed t t.elapsed none)
          · rw [if_neg own]
            by_cases late : saysTimeout r
            · rw [if_pos late]
              exact ran
            · rw [if_neg late]
              exact ran

end Deadline

namespace Dispatcher

theorem moves_invoke {h : Handler σ} (hh : h.Moves R) (step : Step) (config : Value)
    (c : Context) {choose : List Float -> Bool -> Run σ (Option (List Value))}
    (hc : ∀ ds b, Moves R (choose ds b)) (deadlines : List Float) :
    Moves R (invoke h step config c choose deadlines) := by
  refine F.bind (Run.moves_current F config) fun config => ?_
  cases h with
  | builtin b => exact Run.moves_changing F (hh step config c)
  | plugin p => exact Deadline.moves_invoke F hh step config c deadlines
  | conditional =>
      exact F.bind (Condition.moves_decide F hh c step.condition) fun chosen =>
        F.map (hc deadlines chosen) _

theorem moves_configOf (c : Context) (step : Step) : Moves R (configOf c step : Run σ Value) :=
  F.bind (Run.moves_current F _) fun scope =>
    F.bind (Run.moves_resolving F (Reference.draws_resolve scope step.config)) fun config =>
      Run.moves_ownParts F config

theorem moves_runStep {d : Dispatcher σ} (hd : d.registry.Moves R) (c : Context)
    (deadlines : List Float) (step : Step)
    {choose : List Float -> Bool -> Run σ (Option (List Value))}
    (hc : ∀ ds b, Moves R (choose ds b)) : Moves R (runStep d c deadlines step choose) := by
  refine F.bind (Run.moves_now F) fun _ => Run.moves_ofResult_bind F fun handler found => ?_
  refine F.bind (moves_configOf F c step) fun config => ?_
  refine F.bind (Attempt.moves_startingAt F _ step _ ?_ _ _) fun attempted =>
    F.bind (Run.moves_own F _) fun _ => F.map (Run.moves_now F) _
  exact Deadline.moves_within F step deadlines fun ds =>
    moves_invoke F (hd _ _ _ found) step config c hc ds

mutual

theorem moves_dispatchWithin {d : Dispatcher σ} (hd : d.registry.Moves R) (c : Context)
    (deadlines : List Float) (step : Step) : Moves R (dispatchWithin d c deadlines step) := by
  match step with
  | ⟨id, type, description, config, onError, retry, timeout, condition, ifTrue, ifFalse, extra⟩ =>
      refine moves_runStep F hd c deadlines _ fun ds chosen => ?_
      split
      · exact moves_dispatchBranch hd c ds ifTrue
      · exact moves_dispatchBranch hd c ds ifFalse

theorem moves_dispatchBranch {d : Dispatcher σ} (hd : d.registry.Moves R) (c : Context)
    (deadlines : List Float) (branch : Option (List Step)) :
    Moves R (dispatchBranch d c deadlines branch) := by
  match branch with
  | none => exact F.pure none
  | some steps => exact F.map (moves_dispatchAll hd c deadlines steps) _

theorem moves_dispatchAll {d : Dispatcher σ} (hd : d.registry.Moves R) (c : Context)
    (deadlines : List Float) (steps : List Step) : Moves R (dispatchAll d c deadlines steps) := by
  match steps with
  | [] => exact F.pure []
  | s :: rest =>
      exact F.bind (moves_dispatchWithin hd c deadlines s) fun _ =>
        F.map (moves_dispatchAll hd c deadlines rest) _

end

end Dispatcher

/-! ## Executions -/

namespace Engine

theorem moves_advance {d : Dispatcher σ} (hd : d.registry.Moves R) (p : Progress) (step : Step) :
    Moves R (advance d p step) :=
  F.bind (Dispatcher.moves_dispatchWithin F hd p.context [] step) fun _ =>
    F.bind (Run.moves_now F) fun _ => F.map (Run.moves_ofExcept F _) _

theorem advanceAll_moves {d : Dispatcher σ} (hd : d.registry.Moves R) (p : Progress)
    (steps : List Step) (w : World σ) : R w (advanceAll d p steps w).2 := by
  induction steps generalizing p w with
  | nil => exact F.refl w
  | cons step rest ih =>
      have first := moves_advance F hd p step w
      simp only [advanceAll]
      cases h : advance d p step w with
      | ok q v =>
          rw [left_of_ok h] at first
          exact F.trans first (ih q v)
      | error r v =>
          rw [left_of_error h] at first
          exact first

omit F in
theorem draws_resolveOutputs (scope : Value) (outputs : List (String × Value)) :
    Moves Fresh.Drawn (resolveOutputs scope outputs) := by
  induction outputs with
  | nil => exact Fresh.drawn_chained.pure []
  | cons o rest ih =>
      exact Fresh.drawn_chained.bind (Reference.draws_resolve scope o.2) fun _ =>
        Fresh.drawn_chained.map ih _

theorem moves_outputsOf (d : Definition) (c : Context) :
    Moves R (outputsOf d c : Run σ Value) := by
  unfold outputsOf
  split
  · exact F.pure _
  · exact F.bind (Run.moves_current F _) fun scope =>
      F.bind (Run.moves_resolving F (draws_resolveOutputs scope _)) fun _ => Run.moves_own F _

theorem runToEnd_moves {d : Dispatcher σ} (hd : d.registry.Moves R) (definition : Definition)
    (c : Context) (x : Execution) (w : World σ) : R w (runToEnd d definition c x w).2 := by
  have steps := advanceAll_moves F hd ⟨c, []⟩ definition.steps w
  unfold runToEnd
  rcases hs : advanceAll d ⟨c, []⟩ definition.steps w with ⟨⟨p, stop⟩, v⟩
  rw [hs] at steps
  cases stop with
  | some s => exact F.trans steps (F.logged v _ _)
  | none =>
      have outputs := moves_outputsOf F definition p.context v
      dsimp only
      cases ho : outputsOf definition p.context v with
      | ok a u =>
          rw [left_of_ok ho] at outputs
          exact F.trans steps (F.trans outputs (F.logged u _ _))
      | error r u =>
          rw [left_of_error ho] at outputs
          exact F.trans steps (F.trans outputs (F.logged u _ _))

omit F in
theorem adoptDefaults_objects (o : Objects) (declared : List (String × Input)) :
    ∃ next, (adoptDefaults o declared).2 = { o with next } := by
  induction declared generalizing o with
  | nil => exact ⟨o.next, rfl⟩
  | cons i rest ih =>
      obtain ⟨next, h⟩ := ih (o.adopt i.2.default).2
      exact ⟨next, h⟩

theorem prepare_moves (e : Engine σ) (name : String) (inputs : List (Value × Value))
    (w : World σ) : R w (prepare e name inputs w).2 := by
  unfold prepare
  split
  · exact F.refl w
  · next definition _ =>
      obtain ⟨next, h⟩ := adoptDefaults_objects w.objects definition.inputs
      simp only [h]
      exact F.marked w next w.objects.nextAdded

theorem openRecord_moves (e : Engine σ) (env : Environment) (definition : Definition)
    (inputs extra : List (Value × Value)) (w : World σ) :
    R w (openRecord e env definition inputs extra w).2 :=
  F.trans (F.issued w 1) (F.trans (F.marked _ _ _) (F.logged _ _ _))

omit F in
theorem prepare_registry (e : Engine σ) (name : String) (inputs : List (Value × Value))
    (w : World σ) : (prepare e name inputs w).1.1.registry = e.registry := by
  unfold prepare
  split <;> rfl

omit F in
theorem prepare_settings (e : Engine σ) (name : String) (inputs : List (Value × Value))
    (w : World σ) : (prepare e name inputs w).1.1.settings = e.settings := by
  unfold prepare
  split <;> rfl

omit F in
theorem prepare_fresh (e : Engine σ) (name : String) (inputs : List (Value × Value))
    (w : World σ) : (prepare e name inputs w).2.fresh = w.fresh := by
  unfold prepare
  split <;> rfl

/-- An execution moves its world no further than its executors do. -/
theorem execute_moves {e : Engine σ} (he : e.registry.Moves R) (env : Environment)
    (name : String) (inputs extra : List (Value × Value)) (w : World σ) :
    R w (execute e env name inputs extra w).2 := by
  have admitted := prepare_moves F e name inputs w
  have same := prepare_registry e name inputs w
  unfold execute
  rcases ha : prepare e name inputs w with ⟨⟨f, _ | ⟨definition, given⟩⟩, v⟩
  · rw [ha] at admitted
    exact admitted
  · rw [ha] at admitted same
    have opened := openRecord_moves F f env definition given extra v
    have he : f.registry.Moves R := by
      rw [same]
      exact he
    have ran := runToEnd_moves F (d := ⟨f.settings, f.registry⟩) he
    exact F.trans admitted (F.trans opened (ran _ _ _ _))

end Engine

end Frame

end Workflow
