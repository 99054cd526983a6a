import Workflow.Context
import Workflow.Template.Rendering
import Workflow.Value.Method.Collection

/-!
# Entries alike but for one key

Two lists of entries may be the same except for what is sealed under one key.  What is
done to both alike keeps them so, and under every other key they hold the same.
-/

namespace Workflow

/-- Entries that differ at most in what is sealed under a key. -/
inductive AlikeBut {α : Type} (key : α) : List (α × Value) -> List (α × Value) -> Prop where
  | nil : AlikeBut key [] []
  | same (k : α) (v : Value) {s t : List (α × Value)} :
      AlikeBut key s t -> AlikeBut key ((k, v) :: s) ((k, v) :: t)
  | hidden (es fs : List (Value × Value)) {s t : List (α × Value)} :
      AlikeBut key s t -> AlikeBut key ((key, .sealed es) :: s) ((key, .sealed fs) :: t)

namespace AlikeBut

theorem refl {α : Type} (key : α) (s : List (α × Value)) : AlikeBut key s s := by
  induction s with
  | nil => exact .nil
  | cons e rest ih => exact .same e.1 e.2 ih

section Fields

variable {name : String} {s t : List (Value × Value)}

/-- Every other name has the same value. -/
theorem field? (h : AlikeBut (.str name) s t) {other : String} (hne : other ≠ name) :
    Value.field? s other = Value.field? t other := by
  induction h with
  | nil => rfl
  | same k v _ ih => cases k <;> simp only [Value.field?, ih]
  | hidden es fs _ ih => simp only [Value.field?, Ne.symm hne, if_false, ih]

theorem putField (h : AlikeBut (.str name) s t) (n : String) (v : Value) :
    AlikeBut (.str name) (Value.putField s n v) (Value.putField t n v) := by
  induction h with
  | nil => exact .same _ _ .nil
  | same k w rest ih =>
      cases k with
      | str key =>
          simp only [Value.putField]
          split
          · exact .same _ _ rest
          · exact .same _ _ ih
      | _ => exact .same _ _ ih
  | hidden es fs rest ih =>
      simp only [Value.putField]
      split
      · exact .same _ _ rest
      · exact .hidden es fs ih

/-- The sealed values may differ from the start. -/
theorem putField_sealed (s : List (Value × Value)) (name : String) (es fs : List (Value × Value)) :
    AlikeBut (.str name) (Value.putField s name (.sealed es))
      (Value.putField s name (.sealed fs)) := by
  induction s with
  | nil => exact .hidden es fs .nil
  | cons e rest ih =>
      obtain ⟨k, v⟩ := e
      cases k with
      | str key =>
          by_cases same : key = name
          · subst same
            simp only [Value.putField, if_true]
            exact .hidden es fs (refl _ rest)
          · simp only [Value.putField, same, if_false]
            exact .same _ v ih
      | _ => exact .same _ v ih

theorem insert {key : Value} (h : AlikeBut key s t) (k v : Value) :
    AlikeBut key (Value.insert s k v) (Value.insert t k v) := by
  induction h with
  | nil => exact .same _ _ .nil
  | same _ _ rest ih =>
      simp only [Value.insert]
      split
      · exact .same _ _ rest
      · exact .same _ _ ih
  | hidden es fs rest ih =>
      simp only [Value.insert]
      split
      · exact .same _ _ rest
      · exact .hidden es fs ih

theorem insertAll {key : Value} (h : AlikeBut key s t) (new : List (Value × Value)) :
    AlikeBut key (Value.insertAll s new) (Value.insertAll t new) := by
  unfold Value.insertAll
  induction new generalizing s t with
  | nil => exact h
  | cons e rest ih => exact ih (h.insert e.1 e.2)

/-- What changeable values hold by now is the same on both sides. -/
theorem refresh (h : AlikeBut (.str name) s t) (o : Objects) :
    ∃ s' t', o.refresh (.dict s) = .dict s' ∧ o.refresh (.dict t) = .dict t' ∧
      AlikeBut (.str name) s' t' := by
  unfold Objects.refresh
  split
  · exact ⟨s, t, rfl, rfl, h⟩
  · refine ⟨_, _, rfl, rfl, ?_⟩
    induction h with
    | nil => exact .nil
    | same k v _ ih => exact .same _ _ ih
    | hidden es fs _ ih => exact .hidden es fs ih

/-- The entries whose keys are texts, by these texts. -/
theorem named (h : AlikeBut (.str name) s t) :
    AlikeBut name (s.filterMap fun (k, v) => k.asText?.map fun n => (n, v))
      (t.filterMap fun (k, v) => k.asText?.map fun n => (n, v)) := by
  induction h with
  | nil => exact .nil
  | same k v _ ih =>
      cases hk : k.asText? with
      | none => simpa only [List.filterMap_cons, hk, Option.map_none] using ih
      | some n =>
          simp only [List.filterMap_cons, hk, Option.map_some]
          exact .same n v ih
  | hidden es fs _ ih => exact .hidden es fs ih

end Fields

section Names

variable {name : String} {s t : List (String × Value)}

/-- Every other name has the same value. -/
theorem lookup (h : AlikeBut name s t) {other : String} (hne : other ≠ name) :
    s.lookup other = t.lookup other := by
  induction h with
  | nil => rfl
  | same k v _ ih => simp only [List.lookup_cons, ih]
  | hidden es fs _ ih => simp only [List.lookup_cons, beq_eq_false_iff_ne.mpr hne, ih]

/-- The same marks are given to what both sides hold. -/
theorem ownVariables (h : AlikeBut name s t) (o : Objects) :
    ∃ s' t' p, Template.ownVariables s o = .ok s' p ∧ Template.ownVariables t o = .ok t' p ∧
      AlikeBut name s' t' := by
  induction h generalizing o with
  | nil => exact ⟨[], [], o, rfl, rfl, .nil⟩
  | same k v _ ih =>
      obtain ⟨s', t', p, hs, ht, alike⟩ := ih (o.adopt v).2
      refine ⟨(k, (o.adopt v).1) :: s', (k, (o.adopt v).1) :: t', p, ?_, ?_, .same _ _ alike⟩
      · simp only [Template.ownVariables, bind, EStateM.bind, Action.own, hs, pure, EStateM.pure]
      · simp only [Template.ownVariables, bind, EStateM.bind, Action.own, ht, pure, EStateM.pure]
  | hidden es fs _ ih =>
      obtain ⟨s', t', p, hs, ht, alike⟩ := ih o
      refine ⟨(name, .sealed es) :: s', (name, .sealed fs) :: t', p, ?_, ?_, .hidden es fs alike⟩
      · simp only [Template.ownVariables, bind, EStateM.bind, Action.own, Objects.adopt,
          Objects.markFrom, hs, pure, EStateM.pure]
      · simp only [Template.ownVariables, bind, EStateM.bind, Action.own, Objects.adopt,
          Objects.markFrom, ht, pure, EStateM.pure]

end Names

end AlikeBut

namespace Context

/-- Contexts that differ only in their environment show alike scopes but for it. -/
theorem scope_alike (c : Context) (env other : Environment) :
    AlikeBut (.str "env") ({ c with env }).scope ({ c with env := other }).scope :=
  .putField_sealed _ "env" _ _

theorem dataScope_alike (c : Context) (env other : Environment) :
    AlikeBut (.str "env") ({ c with env }).dataScope ({ c with env := other }).dataScope :=
  (AlikeBut.putField_sealed _ "env" _ _).putField "workflow" (.dict c.workflow)

end Context

end Workflow
