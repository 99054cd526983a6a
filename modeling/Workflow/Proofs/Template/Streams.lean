import Workflow.Proofs.Template.Memory

/-!
# Streams that see few names

Taking items of streams and loops looks nothing up by name, except where a loop with a
test judges its items.  It is blind to other names as long as the judge is.
-/

namespace Workflow

namespace Template

variable {P : String -> Prop}

/-- A judge that sees no names but those of a set when it judges for a loop with no others. -/
def JudgeBlind (P : String -> Prop) (judge : Judge) : Prop :=
  ∀ (b : LoopBody) (x : Value), b.Within P -> Blind P (judge b x)

theorem blind_courseOf (v : Value) : Blind P (courseOf v) := by
  unfold courseOf
  split
  · exact .pure _
  · refine (blind_lift _).bind fun _ => ?_
    refine Blind.read (fun m n h => by simp only [h.objects]) fun m _ => ?_
    exact (blind_lift _).map _

theorem blind_holds (v : Value) : Blind P (holds v) :=
  (blind_lift _).bind fun _ => (blind_look v).map _

theorem blind_putStream (place : Nat) {maker : Maker} (hm : maker.Within P) (stage : Stage) :
    Blind P (putStream place maker stage) :=
  blind_putCell place (.stream hm)

theorem blind_backward (v : Value) : Blind P (backward v) := by
  unfold backward
  refine Blind.read (fun m n h => by simp only [h.objects]) fun m _ => ?_
  split
  · exact blind_newStream _ .items _
  · refine (blind_look _).bind fun _ => (blind_lift _).bind fun _ => (Blind.pure _).bind fun _ => ?_
    exact blind_newStream _ .items _

theorem blind_lastRun (a : Value.Arguments) (kept : List Value) : Blind P (lastRun a kept) := by
  unfold lastRun
  split
  · exact .pure _
  · exact (blind_make _).map _

/-- What goes through streams is blind at a depth of calls. -/
structure StreamsBlind (P : String -> Prop) (judge : Judge) (escaping : Bool) (fuel : Nat) :
    Prop where
  nextOf : ∀ c, Blind P (nextOf judge escaping fuel c)
  pull : ∀ place, Blind P (pull judge escaping fuel place)
  startStream : ∀ place (maker : Maker) source, maker.Within P ->
    Blind P (startStream judge escaping fuel place maker source)
  advance : ∀ place (maker : Maker) left kept, maker.Within P ->
    Blind P (advance judge escaping fuel place maker left kept)
  mapped : ∀ a x, Blind P (mapped judge escaping fuel a x)
  chosen : ∀ byPart a x, Blind P (chosen judge escaping fuel byPart a x)
  drainFrom : ∀ taken c, Blind P (drainFrom judge escaping fuel taken c)
  drain : ∀ v, Blind P (drain judge escaping fuel v)
  isAhead : ∀ v c, Blind P (isAhead judge escaping fuel v c)
  isMemberOf : ∀ v container, Blind P (isMemberOf judge escaping fuel v container)
  testValue : ∀ name v a, Blind P (testValue judge escaping fuel name v a)
  applyFilter : ∀ name v a, Blind P (applyFilter judge escaping fuel name v a)

namespace StreamsBlind

variable {judge : Judge} {escaping : Bool} {fuel : Nat} (q : StreamsBlind P judge escaping fuel)
include q

theorem nextOf_succ (c : Course) : Blind P (Template.nextOf judge escaping (fuel + 1) c) := by
  unfold Template.nextOf
  split
  · refine Blind.read (fun m n h => by simp only [h.objects]) fun m _ => ?_
    refine (blind_lift _).bind fun r => ?_
    split <;> exact .pure _
  · exact (q.pull _).map _

theorem pull_succ (place : Nat) : Blind P (Template.pull judge escaping (fuel + 1) place) := by
  unfold Template.pull
  refine Blind.read (fun m n h => by simp only [h.cells]) fun m hm => ?_
  split
  · next maker source heq =>
      cases hm _ _ heq with
      | stream hmaker =>
          exact (q.startStream place maker source hmaker).bind fun _ => q.pull place
  · next maker left kept heq =>
      cases hm _ _ heq with
      | stream hmaker => exact q.advance place maker left kept hmaker
  · exact .pure _

theorem startStream_succ (place : Nat) {maker : Maker} (hm : maker.Within P) (source : Value) :
    Blind P (Template.startStream judge escaping (fuel + 1) place maker source) := by
  unfold Template.startStream
  split
  · split
    · exact blind_putStream place hm _
    · split
      · exact (blind_courseOf _).bind fun _ => blind_putStream place .items _
      · exact .throw _
  · refine (q.drain _).bind fun xs => (blind_make _).bind fun parts => ?_
    exact (blind_lift _).bind fun _ => blind_putStream place .items _
  · extract_lets rest
    have begun (skipped : Bool) : Blind P (rest skipped) := by
      dsimp only [rest]
      split
      · exact blind_putStream place hm _
      · refine (blind_lift _).bind fun _ => (blind_courseOf _).bind fun _ => ?_
        exact blind_putStream place hm _
    split
    · exact (blind_holds _).bind fun _ => (Blind.pure _).bind begun
    · exact (Blind.pure _).bind begun
  · exact (blind_courseOf _).bind fun _ => blind_putStream place hm _

theorem advance_succ (hj : JudgeBlind P judge) (place : Nat) {maker : Maker} (hm : maker.Within P)
    (left : Course) (kept : List Value) :
    Blind P (Template.advance judge escaping (fuel + 1) place maker left kept) := by
  unfold Template.advance
  refine (q.nextOf _).bind fun (x?, left) => ?_
  cases x? with
  | none =>
      refine (blind_putStream place hm _).bind fun _ => ?_
      split
      · exact blind_lastRun _ _
      · exact .pure _
  | some x =>
      refine (blind_putStream place hm _).bind fun _ => ?_
      split
      · exact .pure _
      · cases hm with
        | chosen hb =>
            refine (hj _ _ hb).bind fun _ => ?_
            split
            · exact .pure _
            · exact q.advance place _ _ _ (.chosen hb)
      · exact (q.mapped _ _).map _
      · dsimp only
        refine (blind_current _).bind fun _ => (blind_lift _).bind fun _ => ?_
        split
        · exact q.advance place _ _ _ hm
        · exact (blind_putStream place hm _).bind fun _ => .pure _
      · dsimp only
        split
        · exact (blind_putStream place hm _).bind fun _ => (blind_make _).map _
        · exact q.advance place _ _ _ hm
      · dsimp only
        refine (q.chosen _ _ _).bind fun _ => ?_
        split
        · exact .pure _
        · exact q.advance place _ _ _ hm

theorem mapped_succ (a : Value.Arguments) (x : Value) :
    Blind P (Template.mapped judge escaping (fuel + 1) a x) := by
  unfold Template.mapped
  split
  · exact (blind_current _).bind fun _ => blind_make _
  · exact (blind_lift _).bind fun _ => q.applyFilter _ _ _
  · exact .throw _

theorem chosen_succ (byPart : Bool) (a : Value.Arguments) (x : Value) :
    Blind P (Template.chosen judge escaping (fuel + 1) byPart a x) := by
  unfold Template.chosen
  refine (blind_current _).bind fun _ => (blind_lift _).bind fun (y, b) => ?_
  dsimp only
  split
  · exact blind_holds _
  · exact (blind_lift _).bind fun _ => q.testValue _ _ _

theorem drainFrom_succ (taken : List Value) (c : Course) :
    Blind P (Template.drainFrom judge escaping (fuel + 1) taken c) := by
  unfold Template.drainFrom
  refine (q.nextOf _).bind fun (x?, c) => ?_
  cases x? with
  | none => exact .pure _
  | some x => exact q.drainFrom _ _

theorem drain_succ (v : Value) : Blind P (Template.drain judge escaping (fuel + 1) v) := by
  unfold Template.drain
  exact (blind_courseOf _).bind fun _ => q.drainFrom _ _

theorem isAhead_succ (v : Value) (c : Course) :
    Blind P (Template.isAhead judge escaping (fuel + 1) v c) := by
  unfold Template.isAhead
  refine (q.nextOf _).bind fun (x?, c) => ?_
  cases x? with
  | none => exact .pure _
  | some x =>
      refine (blind_current _).bind fun _ => (blind_lift _).bind fun _ => ?_
      split
      · exact .pure _
      · exact q.isAhead _ _

theorem isMemberOf_succ (v container : Value) :
    Blind P (Template.isMemberOf judge escaping (fuel + 1) v container) := by
  unfold Template.isMemberOf
  refine (blind_current _).bind fun _ => ?_
  split
  · exact q.isAhead _ _
  · exact (blind_current _).bind fun _ => blind_lift _

theorem testValue_succ (name : String) (v : Value) (a : Value.Arguments) :
    Blind P (Template.testValue judge escaping (fuel + 1) name v a) := by
  unfold Template.testValue
  split
  · exact q.isMemberOf _ _
  · exact (blind_current _).bind fun _ => (blind_currentArguments _).bind fun _ => blind_lift _

theorem applyFilter_succ (name : String) (v : Value) (a : Value.Arguments) :
    Blind P (Template.applyFilter judge escaping (fuel + 1) name v a) := by
  unfold Template.applyFilter
  split
  · extract_lets rest
    have begun (u : Unit) : Blind P (rest u) :=
      (blind_currentArguments a).bind fun _ => blind_newStream _ (.filter _ _) _
    split
    · exact (blind_lift _).bind fun _ => begun ()
    · exact begun ()
  · refine (blind_lift _).bind fun _ => (blind_courseOf _).bind fun _ => ?_
    exact (q.nextOf _).map _
  · refine (blind_lift _).bind fun _ => (blind_look _).bind fun _ => (blind_lift _).bind fun _ => ?_
    split
    · exact (blind_lift _).map _
    · exact .throw _
  · refine (blind_lift _).bind fun _ => (blind_look _).bind fun _ => ?_
    split
    · exact .pure _
    · refine (blind_lift _).bind fun _ => ?_
      split
      · exact blind_backward _
      · split
        · exact (q.drain _).bind fun _ => blind_make _
        · split
          · exact blind_make _
          · exact .throw _
  · refine (blind_currentArguments _).bind fun b => ?_
    split
    · extract_lets apply rest
      have applied (u : Unit) : Blind P (rest u) :=
        (q.drain v).bind fun _ => (Blind.mapM blind_current _).bind fun _ => blind_make _
      split
      · exact (blind_lift _).bind fun _ => applied ()
      · exact applied ()
    · extract_lets rest
      have applied (w : Value) : Blind P (rest w) := blind_make _
      split
      · exact (q.drain _).bind fun _ => (Blind.pure _).bind applied
      · exact (blind_current _).bind applied

end StreamsBlind

/-- Going through streams is blind at every depth of calls. -/
theorem streams_blind {judge : Judge} (hj : JudgeBlind P judge) (escaping : Bool) (fuel : Nat) :
    StreamsBlind P judge escaping fuel := by
  induction fuel with
  | zero => constructor <;> intros <;> exact .throw tooDeep
  | succ fuel q =>
      exact ⟨q.nextOf_succ, q.pull_succ,
        fun place _ source hm => q.startStream_succ place hm source,
        fun place _ left kept hm => q.advance_succ hj place hm left kept,
        q.mapped_succ, q.chosen_succ, q.drainFrom_succ, q.drain_succ, q.isAhead_succ,
        q.isMemberOf_succ, q.testValue_succ, q.applyFilter_succ⟩

/-! ## Loops -/

section Loops

variable {judge : Judge} (hj : JudgeBlind P judge) (escaping : Bool) (fuel : Nat)

/-- A loop that is found in a cell has no other names. -/
theorem loopAt?_bind {α : Type} (place : Nat) (k : Option LoopState -> Render α) :
    (loopAt? place >>= k) = (get >>= fun m => match m.cells[place]? with
      | some (.loop l) => k (some l)
      | _ => k none) := by
  simp only [loopAt?, bind_assoc]
  congr
  funext m
  rcases m.cells[place]? with _ | c
  · rfl
  · cases c <;> rfl

theorem blind_loopAt? {α : Type} (place : Nat) {k : Option LoopState -> Render α}
    (hk : ∀ l? : Option LoopState,
      (∀ l ∈ l?, ∀ b ∈ l.again, LoopBody.Within P b) -> Blind P (k l?)) :
    Blind P (loopAt? place >>= k) := by
  rw [loopAt?_bind]
  refine Blind.read (fun m n h => by simp only [h.cells]) fun m hm => ?_
  split
  · next l heq =>
      cases hm _ _ heq with
      | loop again =>
          refine hk _ fun x hx => ?_
          cases hx
          exact again
  · exact hk none (by simp)

include hj

theorem blind_takeItem (place : Nat) {l : LoopState} (hl : ∀ b ∈ l.again, LoopBody.Within P b) :
    Blind P (takeItem judge escaping fuel place l) := by
  unfold takeItem
  extract_lets started rest
  have taken (r : Option Value × Course) : Blind P (rest r) := by
    obtain ⟨x?, left⟩ := r
    cases x? with
    | none => exact .pure _
    | some x =>
        refine (blind_putCell place ?_).bind fun _ => .pure _
        exact .loop hl
  split
  · exact (Blind.pure _).bind taken
  · exact ((streams_blind hj escaping fuel).nextOf _).bind taken

theorem blind_peek (place : Nat) {l : LoopState} (hl : ∀ b ∈ l.again, LoopBody.Within P b) :
    Blind P (peek judge escaping fuel place l) := by
  unfold peek
  split
  · exact .pure _
  · refine ((streams_blind hj escaping fuel).nextOf _).bind ?_
    rintro ⟨x?, left⟩
    refine (blind_putCell place ?_).bind fun _ => .pure _
    exact .loop hl

theorem blind_countItems (place : Nat) {l : LoopState} (hl : ∀ b ∈ l.again, LoopBody.Within P b) :
    Blind P (countItems judge escaping fuel place l) := by
  unfold countItems
  refine (blind_look _).bind fun v => ?_
  split
  · exact .pure _
  · refine (blind_putCell place ?_).bind fun _ => .pure _
    exact .loop hl
  · refine ((streams_blind hj escaping fuel).drainFrom _ _).bind fun rest => ?_
    refine (blind_putCell place ?_).bind fun _ => .pure _
    exact .loop hl

theorem blind_loopPart (place : Nat) {l : LoopState} (hl : ∀ b ∈ l.again, LoopBody.Within P b)
    (name : String) : Blind P (loopPart judge escaping fuel place l name) := by
  have count := blind_countItems hj escaping fuel place hl
  have ahead := blind_peek hj escaping fuel place hl
  unfold loopPart
  dsimp only
  split
  all_goals first
    | exact .pure _
    | exact count.map _
    | exact ahead.map _

theorem blind_partOf (v : Value) (name : String) :
    Blind P (partOf judge escaping fuel v name) := by
  unfold partOf
  split
  · refine blind_loopAt? _ fun l? hl => ?_
    cases l? with
    | none => exact blind_plainPart _ name
    | some l => exact blind_loopPart hj escaping fuel _ (hl l rfl) name
  · exact blind_plainPart _ name

theorem blind_itemIn (v key : Value) : Blind P (itemIn judge escaping fuel v key) := by
  unfold itemIn
  split
  · exact blind_partOf hj escaping fuel _ _
  · exact (blind_look _).bind fun _ => (blind_current _).bind fun _ => blind_make _

theorem blind_printed (v : Value) : Blind P (printed judge escaping fuel v) := by
  unfold printed
  split
  · refine blind_loopAt? _ fun l? hl => ?_
    cases l? with
    | none => exact .pure _
    | some l => exact (blind_countItems hj escaping fuel _ (hl l rfl)).map _
  · exact blind_plainPrinted escaping _

end Loops

end Template

end Workflow
