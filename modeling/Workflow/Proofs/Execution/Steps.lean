import Workflow.Engine

/-!
# The steps of an execution

Steps are dispatched in their order up to the first one that raises something.  What the
context records is at every moment what the results say, so a step sees the steps before
it and nothing else.
-/

namespace Workflow

/-- What a result says of its step: which one it is and of which type. -/
def StepResult.heading (r : StepResult) : String × String :=
  (r.stepId, r.stepType)

/-- What a result says of a step that is said to have ended. -/
def StepResult.ending (r : StepResult) : String × Value × String :=
  (r.stepId, r.output, r.status)

/-- Which step this is and of which type. -/
def Step.heading (s : Step) : String × String :=
  (s.id, s.type)

/-- What a context says of the steps that ended, in order. -/
def Context.endings (c : Context) : List (String × Value × String) :=
  c.records.map fun (id, r) => (id, r.output, r.status)

namespace Engine

variable {σ : Type}

/-- The context records what the results say. -/
def Progress.Aligned (p : Progress) : Prop :=
  p.context.endings = p.results.map StepResult.ending

/-- The progress after a step that ended, which was not recorded before. -/
def Progress.extend (p : Progress) (step : Step) (o : StepOutcome) (now : DateTime) : Progress :=
  ⟨{ p.context with records := p.context.records ++ [(step.id, ⟨o.output, o.status, now⟩)] },
    p.results ++ [resultOf step o]⟩

theorem Progress.Aligned.extend {p : Progress} (h : p.Aligned) (step : Step) (o : StepOutcome)
    (now : DateTime) : (p.extend step o now).Aligned := by
  have before : p.context.records.map (fun (id, r) => (id, r.output, r.status))
      = p.results.map StepResult.ending := h
  simp [Aligned, Progress.extend, Context.endings, before, StepResult.ending, resultOf]

theorem Progress.aligned_start {c : Context} (h : c.records = []) :
    Progress.Aligned ⟨c, []⟩ := by
  simp [Aligned, Context.endings, h]

/-! ## One step -/

/-- A step that is passed was dispatched, and had not been recorded. -/
theorem advance_ok {d : Dispatcher σ} {p q : Progress} {step : Step} {w v : World σ}
    (h : advance d p step w = .ok q v) :
    ∃ o, d.dispatch p.context step w = .ok o v ∧ p.context.records.has step.id = false ∧
      q = p.extend step o v.fresh.now := by
  simp only [advance, bind, EStateM.bind] at h
  split at h
  · next o u hd =>
      refine ⟨o, ?_⟩
      have clock : (Run.now : Run σ DateTime) u = .ok u.fresh.now u := rfl
      simp only [clock, Context.record] at h
      by_cases taken : p.context.records.has step.id
      · have refused (e : Error) : (Run.ofResult (.error e) : Run σ Context) u = .error (.error e) u :=
          rfl
        simp only [taken, if_true, refused] at h
        cases h
      · have kept (c : Context) : (Run.ofResult (.ok c) : Run σ Context) u = .ok c u := rfl
        simp only [taken, Bool.false_eq_true, if_false, kept] at h
        cases h
        exact ⟨hd, by simpa using taken, rfl⟩
  · cases h

theorem Progress.Aligned.advance {d : Dispatcher σ} {p q : Progress} {step : Step} {w v : World σ}
    (ha : p.Aligned) (h : advance d p step w = .ok q v) : q.Aligned := by
  obtain ⟨o, _, _, rfl⟩ := advance_ok h
  exact ha.extend step o _

theorem advance_results {d : Dispatcher σ} {p q : Progress} {step : Step} {w v : World σ}
    (h : advance d p step w = .ok q v) :
    ∃ r, r.heading = step.heading ∧ q.results = p.results ++ [r] := by
  obtain ⟨o, _, _, rfl⟩ := advance_ok h
  exact ⟨resultOf step o, rfl, rfl⟩

/-! ## All steps -/

theorem advanceAll_cons_ok {d : Dispatcher σ} {p q : Progress} {step : Step} {w v : World σ}
    (rest : List Step) (h : advance d p step w = .ok q v) :
    advanceAll d p (step :: rest) w = advanceAll d q rest v := by
  simp [advanceAll, h]

theorem advanceAll_cons_error {d : Dispatcher σ} {p : Progress} {step : Step} {w v : World σ}
    {r : Raised} (rest : List Step) (h : advance d p step w = .error r v) :
    advanceAll d p (step :: rest) w = ((p, some ⟨some step.id, r⟩), v) := by
  simp [advanceAll, h]

/-- Steps that follow others run after them, unless one of those raised something. -/
theorem advanceAll_append (d : Dispatcher σ) (p : Progress) (front back : List Step)
    (w : World σ) :
    advanceAll d p (front ++ back) w =
      match advanceAll d p front w with
      | ((q, none), v) => advanceAll d q back v
      | ((q, some s), v) => ((q, some s), v) := by
  induction front generalizing p w with
  | nil => rfl
  | cons step rest ih =>
      rw [List.cons_append]
      cases h : advance d p step w with
      | ok q v => rw [advanceAll_cons_ok _ h, advanceAll_cons_ok _ h, ih]
      | error r v => rw [advanceAll_cons_error _ h, advanceAll_cons_error _ h]

/-- There is a result for each step that was passed, in the order of the steps. -/
theorem advanceAll_results (d : Dispatcher σ) (p : Progress) (steps : List Step) (w : World σ) :
    ∃ passed, (advanceAll d p steps w).1.1.results = p.results ++ passed ∧
      passed.map StepResult.heading <+: steps.map Step.heading ∧
      ((advanceAll d p steps w).1.2 = none →
        passed.map StepResult.heading = steps.map Step.heading) := by
  induction steps generalizing p w with
  | nil => exact ⟨[], (List.append_nil _).symm, by simp, by simp⟩
  | cons step rest ih =>
      cases h : advance d p step w with
      | ok q v =>
          obtain ⟨r, hr, hq⟩ := advance_results h
          obtain ⟨passed, hp, front, all⟩ := ih q v
          rw [advanceAll_cons_ok _ h]
          refine ⟨r :: passed, by simp [hp, hq], by simpa [hr] using front, fun ended => ?_⟩
          simp [hr, all ended]
      | error r v =>
          rw [advanceAll_cons_error _ h]
          exact ⟨[], by simp, by simp, by simp⟩

/-- What stops an execution is raised by the first step that has no result. -/
theorem advanceAll_stopped {d : Dispatcher σ} {p q : Progress} {steps : List Step} {s : Stop}
    {w v : World σ} (h : advanceAll d p steps w = ((q, some s), v)) :
    ∃ n step, q.results.length = p.results.length + n ∧ steps[n]? = some step ∧
      s.step = some step.id := by
  induction steps generalizing p w with
  | nil => cases h
  | cons step rest ih =>
      cases ha : advance d p step w with
      | ok t u =>
          obtain ⟨r, _, ht⟩ := advance_results ha
          rw [advanceAll_cons_ok _ ha] at h
          obtain ⟨n, stopped, hn, hs, hid⟩ := ih h
          refine ⟨n + 1, stopped, ?_, by simpa using hs, hid⟩
          rw [hn, ht, List.length_append, List.length_singleton]
          omega
      | error r u =>
          rw [advanceAll_cons_error _ ha] at h
          cases h
          exact ⟨0, step, rfl, rfl, rfl⟩

/-- The first results are those of the first steps, once all of these have passed. -/
theorem take_advanceAll {d : Dispatcher σ} {p q : Progress} {steps : List Step} {k : Nat}
    {w v : World σ} (h : advanceAll d p (steps.take k) w = ((q, none), v)) :
    (advanceAll d p steps w).1.1.results.take (p.results.length + k) = q.results := by
  obtain ⟨passed, hp, _, all⟩ := advanceAll_results d p (steps.take k) w
  obtain ⟨later, hl, front, _⟩ := advanceAll_results d q (steps.drop k) v
  have whole := advanceAll_append d p (steps.take k) (steps.drop k) w
  rw [List.take_append_drop, h] at whole
  rw [h] at hp all
  have count : passed.length = (steps.take k).length := by
    simpa using congrArg List.length (all rfl)
  have fewer : later.length ≤ (steps.drop k).length := by
    simpa using front.length_le
  simp only at hp
  rw [whole, hl, hp]
  rcases Nat.le_total k steps.length with short | long
  · rw [List.length_take, Nat.min_eq_left short] at count
    have cut : (p.results ++ passed).length = p.results.length + k := by
      rw [List.length_append, count]
    rw [← cut]
    exact List.take_left
  · rw [List.length_drop] at fewer
    have none_later : later = [] := List.length_eq_zero_iff.mp (by omega)
    rw [List.length_take, Nat.min_eq_right long] at count
    simp only [none_later, List.append_nil]
    exact List.take_of_length_le (by simp; omega)

theorem Progress.Aligned.advanceAll {d : Dispatcher σ} {p : Progress} (ha : p.Aligned)
    (steps : List Step) (w : World σ) : (advanceAll d p steps w).1.1.Aligned := by
  induction steps generalizing p w with
  | nil => exact ha
  | cons step rest ih =>
      cases h : Engine.advance d p step w with
      | ok q v =>
          rw [advanceAll_cons_ok _ h]
          exact ih (ha.advance h) v
      | error r v =>
          rw [advanceAll_cons_error _ h]
          exact ha

/-! ## What each step sees -/

/-- A step when its turn comes: how far the execution has come, and the world it is in. -/
structure Visit (σ : Type) where
  step : Step
  progress : Progress
  world : World σ

namespace Visit

/-- The context that is dispatched with, with what its values hold by then. -/
def seen (v : Visit σ) : Context :=
  v.progress.context.current v.world.objects

/-- What resolving the configuration comes to. -/
def config (v : Visit σ) : EStateM.Result Raised (World σ) Value :=
  Dispatcher.configOf v.progress.context v.step v.world

/-- What a dispatch receives: a step, its configuration, and a context. -/
def received (v : Visit σ) : Step × EStateM.Result Raised (World σ) Value × Context :=
  (v.step, v.config, v.seen)

end Visit

/-- The steps whose turn comes, in order. -/
def visits (d : Dispatcher σ) (p : Progress) : List Step -> World σ -> List (Visit σ)
  | [], _ => []
  | step :: rest, w =>
      ⟨step, p, w⟩ :: match advance d p step w with
        | .ok q v => visits d q rest v
        | .error _ _ => []

theorem visits_cons_ok {d : Dispatcher σ} {p q : Progress} {step : Step} {w v : World σ}
    (rest : List Step) (h : advance d p step w = .ok q v) :
    visits d p (step :: rest) w = ⟨step, p, w⟩ :: visits d q rest v := by
  simp [visits, h]

theorem visits_cons_error {d : Dispatcher σ} {p : Progress} {step : Step} {w v : World σ}
    {r : Raised} (rest : List Step) (h : advance d p step w = .error r v) :
    visits d p (step :: rest) w = [⟨step, p, w⟩] := by
  simp [visits, h]

/-- The first visits are those of the first steps, whatever follows them. -/
theorem take_visits (d : Dispatcher σ) (p : Progress) (steps : List Step) (w : World σ) (k : Nat) :
    (visits d p steps w).take k = visits d p (steps.take k) w := by
  induction steps generalizing p w k with
  | nil => simp [visits]
  | cons step rest ih =>
      cases k with
      | zero => simp [visits]
      | succ k =>
          rw [List.take_succ_cons]
          cases h : advance d p step w with
          | ok q v => rw [visits_cons_ok _ h, visits_cons_ok _ h, List.take_succ_cons, ih]
          | error r v => rw [visits_cons_error _ h, visits_cons_error _ h]; simp

/-- A step is visited with the results of the steps before it, and with no others. -/
theorem visit_results {d : Dispatcher σ} {p : Progress} {steps : List Step} {w : World σ} {i : Nat}
    {v : Visit σ} (h : (visits d p steps w)[i]? = some v) :
    steps[i]? = some v.step ∧
      v.progress.results = (advanceAll d p steps w).1.1.results.take (p.results.length + i) := by
  induction steps generalizing p w i with
  | nil => simp [visits] at h
  | cons step rest ih =>
      obtain ⟨passed, hp, _⟩ := advanceAll_results d p (step :: rest) w
      cases i with
      | zero =>
          have first : (visits d p (step :: rest) w)[0]? = some ⟨step, p, w⟩ := by simp [visits]
          rw [first] at h
          cases h
          simp [hp]
      | succ i =>
          cases ha : advance d p step w with
          | ok q u =>
              obtain ⟨r, _, hq⟩ := advance_results ha
              rw [visits_cons_ok _ ha, List.getElem?_cons_succ] at h
              obtain ⟨hs, hv⟩ := ih h
              refine ⟨by simpa using hs, ?_⟩
              rw [hv, advanceAll_cons_ok _ ha, hq]
              congr 1
              simp
              omega
          | error r u =>
              rw [visits_cons_error _ ha] at h
              simp at h

theorem Progress.Aligned.visit {d : Dispatcher σ} {p : Progress} (ha : p.Aligned)
    {steps : List Step} {w : World σ} {v : Visit σ} (h : v ∈ visits d p steps w) :
    v.progress.Aligned := by
  induction steps generalizing p w with
  | nil => simp [visits] at h
  | cons step rest ih =>
      cases hs : Engine.advance d p step w with
      | ok q u =>
          rw [visits_cons_ok _ hs] at h
          rcases List.mem_cons.mp h with rfl | h
          · exact ha
          · exact ih (ha.advance hs) h
      | error r u =>
          rw [visits_cons_error _ hs] at h
          rcases List.mem_cons.mp h with rfl | h
          · exact ha
          · simp at h

end Engine

end Workflow
