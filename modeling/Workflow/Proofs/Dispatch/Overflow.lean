import Workflow.Proofs.Dispatch.Policy
import Workflow.Proofs.Execution.Bounded
import Workflow.Proofs.Number.Magnitude

/-!
# Delays that cannot be computed

The backoff of a step is raised to the number of the attempts before the delay is cut to the
longest one.  The power may be too large for a double long before the attempts of the step run
out; the fault of it ends the attempts.
-/

namespace Workflow

/-! ## What is accepted of a retry block -/

theorem Coercion.integerAtMost_ok {greatest m n : Int}
    (h : Coercion.integerAtMost greatest m = .ok n) : n ≤ greatest := by
  unfold Coercion.integerAtMost at h
  split at h
  · next bounded =>
      cases h
      exact bounded
  · cases h

theorem Coercion.atLeast_ok {least x y : Float} {shown : String}
    (h : Coercion.atLeast least shown x = .ok y) : least ≤ y := by
  unfold Coercion.atLeast at h
  split at h
  · next bounded =>
      cases h
      exact bounded
  · cases h

namespace Schema

variable {v : Value} {policy : RetryPolicy}

theorem attempts_le_maxAttempts (h : retryPolicy v = .ok policy) :
    policy.attempts ≤ maxAttempts := by
  cases v with
  | dict entries =>
      rcases field_ok (retryPolicy_ok.mp h).1 with standard | ⟨u, given⟩
      · rw [standard]
        decide
      · obtain ⟨_, within, least⟩ := Checked.andThen_ok.mp given
        obtain ⟨_, _, bounded⟩ := Checked.andThen_ok.mp within
        unfold Coercion.integerAtLeast at least
        split at least
        · cases least
          exact Coercion.integerAtMost_ok bounded
        · cases least
  | _ => cases h

theorem one_le_backoff (h : retryPolicy v = .ok policy) : 1.0 ≤ policy.backoff := by
  cases v with
  | dict entries =>
      rcases field_ok (retryPolicy_ok.mp h).2.2.2 with standard | ⟨u, given⟩
      · rw [standard]
        decide +kernel
      · obtain ⟨_, _, bounded⟩ := Checked.andThen_ok.mp given
        exact Coercion.atLeast_ok bounded
  | _ => cases h

/-- A block may ask for any number of attempts in the bounds, and for any backoff from one on. -/
theorem retryPolicy_of_bounds {n : Int} {x : Float} (first : 1 ≤ n) (most : n ≤ maxAttempts)
    (least : 1.0 ≤ x) :
    retryPolicy (.dict [(.str "attempts", .int n), (.str "backoff", .float x)]) =
      .ok ⟨n, none, none, x⟩ := by
  have counted : Checked.andThen (Coercion.integerAtMost maxAttempts n)
      (Coercion.integerAtLeast 1) = .ok n := by
    simp only [Coercion.integerAtMost, most, Checked.andThen, Coercion.integerAtLeast, first,
      if_true]
  have bounded : Coercion.atLeast 1.0 "1" x = .ok x := if_pos least
  exact retryPolicy_ok.mpr ⟨congrArg (Checked.under "attempts") counted, rfl, rfl,
    congrArg (Checked.under "backoff") bounded⟩

end Schema

/-! ## Powers of the backoff -/

namespace Backoff

/-- The factor between the delays of a step. -/
def factor (retry : Option RetryPolicy) : Float :=
  (retry.map (·.backoff)).getD standardBackoff

/-- Raising a factor gives a double: the power stays below the limit, or the factor is infinite. -/
def Fits (base : Float) (n : Nat) : Prop :=
  ∀ negative mantissa exponent,
    Number.Binary.ofFloat base = .finite negative mantissa exponent ->
    ((mantissa : ℚ) * 2 ^ exponent) ^ n < Number.floatLimit

theorem overflows_eq_false_iff (base : Float) (n : Nat) :
    overflows base n = false ↔ Fits base n := by
  unfold overflows Fits
  cases Number.Binary.ofFloat base with
  | finite negative m e =>
      rw [← Bool.not_eq_true, Number.powerOverflows_iff, not_le]
      exact ⟨fun below _ _ _ same => by cases same; exact below, fun h => h _ _ _ rfl⟩
  | infinite | nan => exact iff_of_true rfl nofun

instance (base : Float) (n : Nat) : Decidable (Fits base n) :=
  decidable_of_iff _ (overflows_eq_false_iff base n)

/-- The limit lies between the last power of two that is a double and the next one. -/
theorem lt_floatLimit :
    (2 : ℚ) ^ 1023 < Number.floatLimit ∧ (Number.floatLimit : ℚ) ≤ 2 ^ 1024 := by
  have limit : (Number.floatLimit : ℚ) = (2 ^ 54 - 1) * 2 ^ 970 := by
    have low : ((Nat.pow 2 54 - 1 : Nat) : ℚ) = 2 ^ 54 - 1 := by norm_num
    have high (n : Nat) : ((Nat.pow 2 n : Nat) : ℚ) = 2 ^ n := Nat.cast_pow 2 n
    rw [Number.floatLimit, Nat.cast_mul, low, high]
  rw [limit, show 1023 = 53 + 970 from rfl, show 1024 = 54 + 970 from rfl, pow_add, pow_add]
  exact ⟨mul_lt_mul_of_pos_right (by norm_num) (by positivity),
    mul_le_mul_of_nonneg_right (by norm_num) (by positivity)⟩

/-- Exactly the powers of the standard factor fit that are doubles. -/
theorem fits_standardBackoff_iff (n : Nat) : Fits standardBackoff n ↔ n < 1024 := by
  have two : Number.Binary.ofFloat standardBackoff = .finite false (2 ^ 52) (-51) := by
    decide +kernel
  have value : ((2 ^ 52 : Nat) : ℚ) * 2 ^ (-51 : Int) = 2 := by norm_num
  have powers : Fits standardBackoff n ↔ (2 : ℚ) ^ n < Number.floatLimit := by
    rw [← value]
    refine ⟨fun h => h _ _ _ two, fun below _ _ _ same => ?_⟩
    rw [two] at same
    cases same
    exact below
  rw [powers]
  constructor
  · intro below
    by_contra beyond
    have reached : (2 : ℚ) ^ 1024 ≤ 2 ^ n := pow_le_pow_right₀ (by norm_num) (Nat.not_lt.mp beyond)
    exact absurd (lt_floatLimit.2.trans reached) (not_le.mpr below)
  · intro within
    exact (pow_le_pow_right₀ (by norm_num) (Nat.le_of_lt_succ within)).trans_lt lt_floatLimit.1

/-- A whole number that is not too large is near a double. -/
theorem floatOfInt_of_le {n : Int} (least : 0 ≤ n) (small : n ≤ 1024) :
    ∃ x, Value.floatOfInt n = .ok x := by
  have short : Number.bitLength n.natAbs ≤ 1000 :=
    (Number.bitLength_le (by omega : n.natAbs < 2 ^ 11)).trans (by decide)
  obtain ⟨x, near⟩ := Number.nearestFloat?_of_bitLength (decide (n < 0)) short
  exact ⟨x, by rw [Value.floatOfInt, Number.floatOfInt?, near]⟩

/-- A factor whose power is computed, or is too large to be. -/
theorem power_of_fits {base : Float} {n : Int} (least : 1.0 ≤ base) (counted : 0 ≤ n)
    (reach : n ≤ 1024 ∨ base = standardBackoff) :
    (Fits base n.toNat -> ∃ x, power base n = .ok x) ∧
      (¬ Fits base n.toNat -> ∃ text, power base n = .error (.overflow text)) := by
  by_cases small : n ≤ 1024
  · obtain ⟨x, near⟩ := floatOfInt_of_le counted small
    have decided : power base n =
        if overflows base n.toNat then .error tooLarge else .ok (Float.pow base x) := by
      simp only [power, near, bind, Except.bind, least, counted, small, and_self, if_true]
    rw [decided, ← overflows_eq_false_iff, Bool.not_eq_false]
    exact ⟨fun fits => ⟨_, by rw [fits]; rfl⟩, fun exceeds => ⟨_, by rw [exceeds]; rfl⟩⟩
  · have standard : base = standardBackoff := reach.resolve_left small
    subst standard
    have two : 2.0 ≤ standardBackoff ∧ standardBackoff.isFinite := by decide +kernel
    have unfit : ¬ Fits standardBackoff n.toNat := by
      rw [fits_standardBackoff_iff]
      omega
    refine ⟨fun fits => absurd fits unfit, fun _ => ?_⟩
    simp only [power, Value.floatOfInt]
    cases Number.floatOfInt? n with
    | none => exact ⟨_, rfl⟩
    | some x =>
        simp only [bind, Except.bind, small, and_false, if_false, two, Int.not_le.mp small,
          and_self, if_true]
        exact ⟨_, rfl⟩

/-! ## Delays -/

variable {s : Settings} {step : Step} {n : Int}

theorem one_le_factor {retry : Option RetryPolicy}
    (accepted : ∀ policy, retry = some policy -> ∃ v, Schema.retryPolicy v = .ok policy) :
    1.0 ≤ factor retry := by
  cases retry with
  | none => exact (by decide +kernel : 1.0 ≤ standardBackoff)
  | some policy =>
      obtain ⟨v, read⟩ := accepted policy rfl
      exact Schema.one_le_backoff read

/-- Attempts beyond the reach of a retry block have the standard factor. -/
theorem reach_of_lt_maxAttempts
    (accepted : ∀ policy, step.retry = some policy -> ∃ v, Schema.retryPolicy v = .ok policy)
    (first : 1 ≤ n) (more : n < maxAttempts s step) :
    n - 1 ≤ 1024 ∨ factor step.retry = standardBackoff := by
  unfold maxAttempts at more
  split at more
  · next policy _ given =>
      obtain ⟨v, read⟩ := accepted policy given
      have most : policy.attempts ≤ 100 := Schema.attempts_le_maxAttempts read
      omega
  · next none => exact .inr (by rw [none]; rfl)
  · omega

theorem delay_of_power {chance x : Float} {retry : Option RetryPolicy}
    (raised : power (factor retry) (n - 1) = .ok x) : ∃ y, delay s chance retry n = .ok y := by
  unfold factor at raised
  simp only [delay, plainDelay, raised, bind, Except.bind]
  exact ⟨_, rfl⟩

theorem delay_of_power_error {chance : Float} {retry : Option RetryPolicy} {f : Fault}
    (raised : power (factor retry) (n - 1) = .error f) : delay s chance retry n = .error f := by
  unfold factor at raised
  simp only [delay, plainDelay, raised, bind, Except.bind]

/-- Between two attempts there is a delay exactly if the factor fits; the fault is an overflow. -/
theorem delay_of_fits
    (accepted : ∀ policy, step.retry = some policy -> ∃ v, Schema.retryPolicy v = .ok policy)
    (first : 1 ≤ n) (more : n < maxAttempts s step) (chance : Float) :
    (Fits (factor step.retry) (n - 1).toNat -> ∃ x, delay s chance step.retry n = .ok x) ∧
      (¬ Fits (factor step.retry) (n - 1).toNat ->
        ∃ text, delay s chance step.retry n = .error (.overflow text)) := by
  obtain ⟨computed, failed⟩ := power_of_fits (one_le_factor accepted) (by omega : 0 ≤ n - 1)
    (reach_of_lt_maxAttempts accepted first more)
  constructor
  · intro fits
    obtain ⟨x, raised⟩ := computed fits
    exact delay_of_power raised
  · intro unfit
    obtain ⟨text, raised⟩ := failed unfit
    exact ⟨text, delay_of_power_error raised⟩

/-- A step whose third delay is to be a power that no double holds. -/
def eager : Step :=
  { Step.plain "a" "t" with onError := .retry, retry := some ⟨4, none, none, 1e200⟩ }

theorem eager_accepted (policy : RetryPolicy) (given : eager.retry = some policy) :
    ∃ v, Schema.retryPolicy v = .ok policy := by
  cases given
  exact ⟨_, Schema.retryPolicy_of_bounds (by decide) (by decide) (by decide +kernel)⟩

/-- Settings and a retry block that are accepted do not ensure that each delay can be computed. -/
theorem exists_delay_error :
    ¬ ∀ (s : Settings) (step : Step) (n : Int), (∃ v, Settings.read v = .ok s) ->
      (∀ policy, step.retry = some policy -> ∃ v, Schema.retryPolicy v = .ok policy) ->
      step.onError = .retry -> 1 ≤ n -> n < maxAttempts s step ->
      ∀ chance, ∃ x, delay s chance step.retry n = .ok x := by
  intro computed
  obtain ⟨x, timed⟩ := computed .standard eager 3 ⟨.dict [], rfl⟩ eager_accepted rfl (by decide)
    (by decide) 0.5
  obtain ⟨text, exceeds⟩ :=
    (delay_of_fits (s := .standard) eager_accepted (by decide) (by decide) 0.5).2
      (by decide +kernel : ¬ Fits (factor eager.retry) (3 - 1 : Int).toNat)
  rw [timed] at exceeds
  cases exceeds

end Backoff

/-! ## Attempts -/

namespace Attempt

variable {s : Settings} {step : Step} {n : Int}

/-- The number of an attempt and of those left after it are all there are. -/
theorem Begins.count {σ : Type} {invoke : Run σ Value} {w v : World σ} {left : Nat}
    (begun : Begins s step invoke w left n v) :
    n + left = 1 + (Backoff.maxAttempts s step - 1).toNat := by
  induction begun with
  | first => rfl
  | again before failed classified waited ih => omega

/--
An attempt that fails before the last one is followed by the next one, after a delay, exactly if
the backoff raised to the number of the attempts before it is a double.  Where it is none the
overflow of computing the delay is raised, and no attempt follows.
-/
theorem followed_iff_fits
    (accepted : ∀ policy, step.retry = some policy -> ∃ v, Schema.retryPolicy v = .ok policy)
    (first : 1 ≤ n) (more : n < Backoff.maxAttempts s step) :
    (∀ chance, (∃ x, Backoff.delay s chance step.retry n = .ok x) ↔
      Backoff.Fits (Backoff.factor step.retry) (n - 1).toNat) ∧
    (∀ chance f, Backoff.delay s chance step.retry n = .error f -> ∃ text, f = .overflow text) ∧
    ∀ {σ : Type} {invoke : Run σ Value} {w v u : World σ} {left : Nat} {r : Raised} {e : Error},
      Begins s step invoke w left n v -> invoke v = .error r u ->
      Failure.classify? step n r = some e ->
      (Backoff.Fits (Backoff.factor step.retry) (n - 1).toNat ->
        ∃ x z, z.delays = u.delays ++ [x] ∧ Begins s step invoke w (left - 1) (n + 1) z) ∧
      (¬ Backoff.Fits (Backoff.factor step.retry) (n - 1).toNat ->
        ∃ text, run s step invoke w = .error (.fault (.overflow text)) u) := by
  have delayed := Backoff.delay_of_fits accepted first more
  refine ⟨fun chance => ⟨fun ⟨x, timed⟩ => ?_, (delayed chance).1⟩, fun chance f failed => ?_, ?_⟩
  · by_contra unfit
    obtain ⟨text, failed⟩ := (delayed chance).2 unfit
    rw [timed] at failed
    cases failed
  · by_cases fits : Backoff.Fits (Backoff.factor step.retry) (n - 1).toNat
    · obtain ⟨x, timed⟩ := (delayed chance).1 fits
      rw [timed] at failed
      cases failed
    · obtain ⟨text, exceeds⟩ := (delayed chance).2 fits
      rw [exceeds] at failed
      exact ⟨text, (Except.error.inj failed).symm⟩
  · intro σ invoke w v u left r e begun failed classified
    obtain ⟨left, rfl⟩ : ∃ k, left = k + 1 := by
      have count := begun.count
      exact ⟨left - 1, by omega⟩
    constructor
    · intro fits
      obtain ⟨x, timed⟩ := (delayed u.chance).1 fits
      exact ⟨x, _, rfl, .again begun failed classified (pause_of_delay timed _ e)⟩
    · intro unfit
      obtain ⟨text, exceeds⟩ := (delayed u.chance).2 unfit
      exact ⟨text, run_of_stuck begun failed classified exceeds⟩

/-- An executor that fails each time is invoked three times of four; then the delay overflows. -/
theorem followed_iff_fits_eager :
    let failing : Run Unit Value := fun w => .error (.fault (.badValue "no")) w
    3 < Backoff.maxAttempts .standard Backoff.eager ∧
      ∃ text u, run .standard Backoff.eager failing Engine.dawn =
          .error (.fault (.overflow text)) u ∧ u.delays.length = 2 := by
  intro failing
  have four : Backoff.maxAttempts .standard Backoff.eager = 4 := by decide
  have followed (n : Int) (first : 1 ≤ n) (more : n < 4) :=
    followed_iff_fits (s := .standard) Backoff.eager_accepted first (by rwa [four])
  have begun : Begins .standard Backoff.eager failing Engine.dawn 3 1 Engine.dawn := .first
  obtain ⟨x, v, waited, second⟩ :=
    ((followed 1 (by decide) (by decide)).2.2 begun rfl rfl).1 (by decide +kernel)
  obtain ⟨y, u, longer, third⟩ :=
    ((followed 2 (by decide) (by decide)).2.2 second rfl rfl).1 (by decide +kernel)
  obtain ⟨text, exceeds⟩ :=
    ((followed 3 (by decide) (by decide)).2.2 third rfl rfl).2 (by decide +kernel)
  refine ⟨by decide, text, u, exceeds, ?_⟩
  rw [longer, waited]
  rfl

end Attempt

end Workflow
