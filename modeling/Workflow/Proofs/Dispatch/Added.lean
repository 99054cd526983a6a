import Workflow.Dispatch.Step
import Workflow.Proofs.Value.Added

/-!
# Runs and added values

Of the world, only the values that a caller gives to an execution tell how many of them
there were.  The parts of a run do the same with more or fewer of them, and what puts two
runs together that do the same does so too.
-/

namespace Workflow

open Effect

variable {σ α : Type} {n : Nat}

/-- The same world, with so many values that a caller added. -/
def World.withAdded (n : Nat) (w : World σ) : World σ :=
  { w with objects := w.objects.withAdded n }

namespace Run

/-- One run does with so many added values what the other one does. -/
abbrev Unadded (n : Nat) (m m' : Run σ α) : Prop :=
  Mirrors (World.withAdded n) m m'

theorem unadded_ofExcept (r : Except Raised α) :
    Unadded n (ofExcept r : Run σ α) (ofExcept r) := by
  cases r with
  | ok a => exact blind_pure a
  | error e => exact blind_throw e

/-- What follows a result only matters when there is one. -/
theorem unadded_ofResult_bind {β : Type} {r : Except Error α} {k k' : α -> Run σ β}
    (h : ∀ a, r = .ok a -> Unadded n (k a) (k' a)) :
    Unadded n (ofResult r >>= k) (ofResult r >>= k') := by
  cases r with
  | ok a => exact h a rfl
  | error e => exact blind_throw (Raised.error e)

theorem unadded_attempt {m m' : Run σ α} (h : Unadded n m m') :
    Unadded n (attempt m) (attempt m') := by
  intro w
  have same := h w
  simp only [attempt, same]
  cases m w <;> rfl

theorem unadded_resolving (m : Reference.Resolving α) :
    Unadded n (resolving m : Run σ α) (resolving m) := by
  intro w
  simp only [resolving, World.withAdded]
  cases m w.fresh <;> rfl

theorem unadded_tried {ε : Type} {m m' : EStateM ε Objects α}
    (h : Mirrors (Objects.withAdded n) m m') :
    Unadded n (tried m : Run σ (Except ε α)) (tried m') := by
  intro w
  have same := h w.objects
  simp only [tried, World.withAdded, same]
  cases m w.objects <;> rfl

theorem unadded_changing {m m' : EStateM Raised Objects α}
    (h : Mirrors (Objects.withAdded n) m m') :
    Unadded n (changing m : Run σ α) (changing m') :=
  (unadded_tried h).bind unadded_ofExcept

theorem unadded_current (v : Value) : Unadded n (current v : Run σ Value) (current v) :=
  mirrors_get fun w => by
    simp only [World.withAdded, Objects.refresh_withAdded]
    exact blind_pure _

theorem unadded_own (v : Value) : Unadded n (own v : Run σ Value) (own v) :=
  fun _ => rfl

theorem unadded_ownParts (v : Value) : Unadded n (ownParts v : Run σ Value) (ownParts v) := by
  intro w
  simp only [ownParts, World.withAdded, Objects.adoptParts_withAdded]
  rfl

theorem unadded_log (level : LogLevel) (message : String) :
    Unadded n (log level message : Run σ Unit) (log level message) :=
  blind_modify fun _ => rfl

theorem unadded_now : Unadded n (now : Run σ DateTime) now :=
  fun _ => rfl

end Run

/-! ## Attempts -/

namespace Attempt

variable (s : Settings) (step : Step) (max attempt : Int)

theorem unadded_settle (e : Error) :
    Run.Unadded n (settle step max attempt e : Run σ Attempted) (settle step max attempt e) := by
  have raised : Run.Unadded n (Run.fail e : Run σ Attempted) (Run.fail e) := blind_throw _
  unfold settle
  split
  · exact (Run.unadded_log _ _).bind fun _ => blind_pure _
  · dsimp only
    split
    · exact (Run.unadded_log _ _).bind fun _ => raised
    · exact raised

variable {invoke invoke' : Run σ Value} (h : Run.Unadded n invoke invoke')
include h

theorem unadded_once {onFailure onFailure' : Raised -> Error -> Run σ Attempted}
    (hf : ∀ r e, Run.Unadded n (onFailure r e) (onFailure' r e)) :
    Run.Unadded n (once step attempt invoke onFailure) (once step attempt invoke' onFailure') := by
  refine (Run.unadded_attempt h).bind fun r => ?_
  cases r with
  | ok v => exact blind_pure _
  | error r =>
      dsimp only
      split
      · exact blind_throw _
      · exact hf r _

omit h in
theorem unadded_pause (r : Raised) (e : Error) :
    Run.Unadded n (pause s step max attempt r e : Run σ Unit) (pause s step max attempt r e) :=
  mirrors_get fun _ => (Run.unadded_ofExcept _).bind fun _ => (Run.unadded_log _ _).bind fun _ =>
    blind_modify fun _ => rfl

theorem unadded_startingAt (left : Nat) :
    Run.Unadded n (startingAt s step max invoke left attempt)
      (startingAt s step max invoke' left attempt) := by
  induction left generalizing attempt with
  | zero => exact unadded_once step attempt h fun _ e => unadded_settle step max attempt e
  | succ left ih =>
      exact unadded_once step attempt h fun r e =>
        (unadded_pause s step max attempt r e).bind fun _ => ih (attempt + 1)

theorem unadded_run : Run.Unadded n (run s step invoke) (run s step invoke') :=
  unadded_startingAt s step _ 1 h _

end Attempt

theorem Deadline.unadded_within (step : Step) (deadlines : List Float)
    {run run' : List Float -> Run σ Value} (h : ∀ ds, Run.Unadded n (run ds) (run' ds)) :
    Run.Unadded n (within step deadlines run) (within step deadlines run') := by
  unfold within
  split
  · exact h deadlines
  · next seconds _ =>
      intro w
      have same := h (deadlines ++ [w.elapsed + seconds]) w
      -- neither the time nor the deadline that ran out tells of added values
      have elapsed : (w.withAdded n).elapsed = w.elapsed := rfl
      simp only [elapsed, same]
      cases run (deadlines ++ [w.elapsed + seconds]) w with
      | ok v t => rfl
      | error r t =>
          have expired : (t.withAdded n).expired = t.expired := rfl
          simp only [changed, expired]
          by_cases own : t.expired == some deadlines.length
          · rw [if_pos own, if_pos own]
            rfl
          · rw [if_neg own, if_neg own]
            by_cases late : saysTimeout r
            · rw [if_pos late, if_pos late]
            · rw [if_neg late, if_neg late]

end Workflow
