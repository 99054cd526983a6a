import Mathlib.Control.Basic
import Workflow.Store

/-!
# Why a definition is refused

Loading a definition ends with the definition, with an error about loading, or with a
fault of the text: bytes that are no text, a text with a value that does not exist, or a
value that the rules have to write and that is too long.  A fault of the text is the only
way out that is not an error about loading.
-/

namespace Workflow

/-- Something raised that says of itself that a definition cannot be loaded. -/
def Raised.IsRefusal (r : Raised) : Prop :=
  ∃ e, r = .error e ∧ Store.isLoadError e = true

namespace Loading

/-- Whatever error a result may be, it is one about loading. -/
def FailsLoading {α : Type} (r : Except Error α) : Prop :=
  ∀ e, r = .error e -> Store.isLoadError e = true

namespace FailsLoading

variable {α β : Type}

theorem ok (a : α) : FailsLoading (.ok a) :=
  fun _ h => by cases h

theorem error {e : Error} (h : Store.isLoadError e = true) :
    FailsLoading (.error e : Except Error α) := by
  rintro _ ⟨⟩
  exact h

theorem bind {r : Except Error α} {k : α -> Except Error β} (hr : FailsLoading r)
    (hk : ∀ a, FailsLoading (k a)) : FailsLoading (r >>= k) := by
  intro e h
  cases r with
  | ok a => exact hk a e h
  | error first =>
      cases h
      exact hr e rfl

end FailsLoading

end Loading

open Loading (FailsLoading)

/-! ## The environment -/

namespace Environment

theorem valueOf_failsLoading (env : Environment) (r : Variable) : FailsLoading (valueOf env r) := by
  unfold valueOf
  split
  · exact .ok _
  · split
    · exact .ok _
    · exact .error rfl

theorem substituteOnce_failsLoading (env : Environment) (cs : List Char) :
    FailsLoading (substituteOnce env cs) := by
  fun_induction substituteOnce env cs with
  | case1 => exact .ok _
  | case2 c rest r after _ ih =>
      exact .bind (valueOf_failsLoading env r) fun _ => .bind ih fun _ => .ok _
  | case3 c rest _ ih => exact .bind ih fun _ => .ok _

theorem substituteText_failsLoading (env : Environment) (depth : Nat) (s : String) :
    FailsLoading (substituteText env depth s) := by
  induction depth generalizing s with
  | zero => exact .error rfl
  | succ depth ih =>
      refine .bind (substituteOnce_failsLoading env s.toList) fun result => ?_
      split
      · exact ih _
      · exact .ok _

mutual

theorem substitute_failsLoading (env : Environment) (v : Value) :
    FailsLoading (substitute env v) := by
  cases v with
  | str s => exact .bind (substituteText_failsLoading env maxDepth s) fun _ => .ok _
  | list items => exact .bind (substituteItems_failsLoading env items) fun _ => .ok _
  | dict entries => exact .bind (substituteEntries_failsLoading env entries) fun _ => .ok _
  | _ => exact .ok _

theorem substituteItems_failsLoading (env : Environment) (items : List Value) :
    FailsLoading (substituteItems env items) := by
  cases items with
  | nil => exact .ok _
  | cons x rest =>
      exact .bind (substitute_failsLoading env x) fun _ =>
        .bind (substituteItems_failsLoading env rest) fun _ => .ok _

theorem substituteEntries_failsLoading (env : Environment) (entries : List (Value × Value)) :
    FailsLoading (substituteEntries env entries) := by
  match entries with
  | [] => exact .ok _
  | (_, v) :: rest =>
      exact .bind (substitute_failsLoading env v) fun _ =>
        .bind (substituteEntries_failsLoading env rest) fun _ => .ok _

end

end Environment

/-! ## Values, texts and files -/

namespace Loading

theorem withSource_isLoadError {e : Error} (h : Store.isLoadError e = true) (source : String) :
    Store.isLoadError (withSource source e) = true := by
  cases e with
  | mk kind content suggestion executionId stepId => cases kind <;> first | rfl | exact h

/-- The rules are broken, or a value that they write has no text. -/
theorem check_error {source : Option String} {entries : List (Value × Value)} {r : Raised}
    (h : Rules.check source entries = .error r) : (∃ f, r = .fault f) ∨ r.IsRefusal := by
  unfold Rules.check at h
  cases hd : Rules.checkDefinition entries with
  | ok warnings =>
      rw [hd] at h
      cases h
  | error failure =>
      rw [hd] at h
      cases h
      cases failure with
      | broken b => exact .inr ⟨_, rfl, rfl⟩
      | fault f => exact .inl ⟨f, rfl⟩

/-- The rules write no value of the entries that is too long, once the environment is put in. -/
def Checkable (env : Environment) (source : Option String) (entries : List (Value × Value)) :
    Prop :=
  ∀ resolved, Environment.substituteEntries env entries = .ok resolved ->
    ∀ f, Rules.check (some (label source)) resolved ≠ .error (.fault f)

/-- Once a text is a value, only errors about loading are raised, if the rules can write it. -/
theorem ofValue_refusal {env : Environment} {source : Option String}
    {entries : List (Value × Value)} {r : Raised}
    (h : (ofValue env source (.dict entries)).result = .error r)
    (checkable : Checkable env source entries) : r.IsRefusal := by
  simp only [ofValue] at h
  cases hs : Environment.substituteEntries env entries with
  | error e =>
      rw [hs] at h
      cases h
      have about := Environment.substituteEntries_failsLoading env entries e hs
      exact ⟨_, rfl, withSource_isLoadError about _⟩
  | ok resolved =>
      simp only [hs, ofResolved] at h
      cases hc : Rules.check (some (label source)) resolved with
      | error raised =>
          rw [hc] at h
          cases h
          rcases check_error hc with ⟨f, rfl⟩ | refusal
          · exact absurd hc (checkable resolved hs f)
          · exact refusal
      | ok warnings =>
          rw [hc] at h
          cases hd : Schema.definition (.dict (withSourcePath source resolved)) with
          | error problems =>
              simp only [hd, Except.mapError] at h
              cases h
              exact ⟨_, rfl, rfl⟩
          | ok d =>
              simp only [hd, Except.mapError] at h
              cases h

theorem parseJson_error {source content : String} {r : Raised}
    (h : parseJson source content = .error r) : (∃ f, r = .fault f) ∨ r.IsRefusal := by
  unfold parseJson at h
  split at h
  · cases h
  · split at h
    · cases h
    · cases h
      exact .inl ⟨_, rfl⟩
    · cases h
      exact .inr ⟨_, rfl, rfl⟩

theorem parseYaml_error {source content : String} {r : Raised}
    (h : parseYaml source content = .error r) : (∃ f, r = .fault f) ∨ r.IsRefusal := by
  unfold parseYaml at h
  split at h
  · cases h
  · cases h
    exact .inl ⟨_, rfl⟩
  · cases h
    exact .inr ⟨_, rfl, rfl⟩

/-- A text that is no dictionary is refused, unless a value in it does not exist. -/
theorem parse_error {format : Option Format} {source content : String} {r : Raised}
    (h : parse format source content = .error r) : (∃ f, r = .fault f) ∨ r.IsRefusal := by
  unfold parse at h
  cases hf : format.getD (Format.detect content) with
  | json =>
      cases hv : parseJson source content with
      | error r' =>
          simp only [hf, hv, bind, Except.bind] at h
          cases h
          exact parseJson_error hv
      | ok v =>
          simp only [hf, hv, bind, Except.bind] at h
          cases v <;> cases h <;> exact .inr ⟨_, rfl, rfl⟩
  | yaml =>
      cases hv : parseYaml source content with
      | error r' =>
          simp only [hf, hv, bind, Except.bind] at h
          cases h
          exact parseYaml_error hv
      | ok v =>
          simp only [hf, hv, bind, Except.bind] at h
          cases v <;> cases h <;> exact .inr ⟨_, rfl, rfl⟩

/-- A text can be read: no value in it is impossible, and none that the rules write too long. -/
def Readable (env : Environment) (format : Option Format) (source : Option String)
    (content : String) : Prop :=
  (∀ f, parse format (label source) content ≠ .error (.fault f)) ∧
    ∀ entries, parse format (label source) content = .ok entries -> Checkable env source entries

/--
A definition at a path can be read: if there is such a file, its bytes are a text, and
the text can be read.
-/
def Legible (env : Environment) (files : Files) (path : Path) : Prop :=
  ∀ data format, openFile files path = .ok (data, format) ->
    ∃ content, Files.textOf data = .ok content ∧
      Readable env (some format) (some path.text) content

section Reading

variable {env : Environment} {format : Option Format} {source : Option String} {content : String}
  {files : Files} {path : Path} {r : Raised}

theorem ofText_refusal (h : (ofText env format source content).result = .error r)
    (readable : Readable env format source content) : r.IsRefusal := by
  unfold ofText at h
  cases hp : parse format (label source) content with
  | error raised =>
      rw [hp] at h
      cases h
      rcases parse_error hp with ⟨f, rfl⟩ | refusal
      · exact absurd hp (readable.1 f)
      · exact refusal
  | ok entries =>
      rw [hp] at h
      exact ofValue_refusal h (readable.2 entries hp)

/-- What cannot be read ends with a fault of the text. -/
theorem ofText_of_not_readable (h : ¬ Readable env format source content) :
    ∃ f, (ofText env format source content).result = .error (.fault f) := by
  unfold ofText
  cases hp : parse format (label source) content with
  | error raised =>
      have impossible : ∃ f, raised = .fault f := by simpa [Readable, hp] using h
      obtain ⟨f, rfl⟩ := impossible
      exact ⟨f, rfl⟩
  | ok entries =>
      have long : ¬ Checkable env source entries := by simpa [Readable, hp] using h
      obtain ⟨resolved, hs, f, hc⟩ : ∃ resolved,
          Environment.substituteEntries env entries = .ok resolved ∧
            ∃ f, Rules.check (some (label source)) resolved = .error (.fault f) := by
        simpa [Checkable] using long
      exact ⟨f, by simp only [ofValue, hs, ofResolved, hc, Loaded.stopped]⟩

/-- What can be read is loaded, or refused with an error about loading. -/
theorem Legible.refusal (legible : Legible env files path)
    (h : (ofFile env files path).result = .error r) : r.IsRefusal := by
  unfold ofFile at h
  cases ho : openFile files path with
  | error e =>
      rw [ho] at h
      cases h
      unfold openFile at ho
      split at ho
      · cases ho
        exact ⟨_, rfl, rfl⟩
      · cases ho
        exact ⟨_, rfl, rfl⟩
      · split at ho
        · cases ho
        · cases ho
          exact ⟨_, rfl, rfl⟩
  | ok opened =>
      obtain ⟨data, format⟩ := opened
      obtain ⟨content, text, readable⟩ := legible data format ho
      simp only [ho, text] at h
      exact ofText_refusal h readable

/-- What cannot be read ends with a fault of its text, which is no error about loading. -/
theorem ofFile_of_not_legible (h : ¬ Legible env files path) :
    ∃ f, (ofFile env files path).result = .error (.fault f) := by
  obtain ⟨data, format, ho, unread⟩ : ∃ data format, openFile files path = .ok (data, format) ∧
      ∀ content, Files.textOf data = .ok content ->
        ¬ Readable env (some format) (some path.text) content := by
    simpa [Legible] using h
  simp only [ofFile, ho]
  cases ht : Files.textOf data with
  | error f => exact ⟨f, rfl⟩
  | ok content => exact ofText_of_not_readable (unread content ht)

end Reading

end Loading

end Workflow
