import Workflow.Proofs.Definition.Declared
import Workflow.Proofs.Json.Data

/-!
# Inputs of an execution

An execution starts when the inputs are what the definition asks for.  Its steps then see
what the caller gave, followed by the defaults of the inputs that were not given.  Other
inputs are refused on account of the first declaration they do not fit, before anything
is recorded.
-/

namespace Workflow

open Value (field? get?)
open Objects (Marked markFrom markAll markEntries)

/-! ## Entries put at the end -/

namespace Value

end Value

/-! ## Giving marks again -/

namespace Objects

mutual

/-- A value that got its marks keeps them. -/
theorem markFrom_again (added again : Bool) (v : Value) (n m : Nat) :
    markFrom again (markFrom added v n).1 m = ((markFrom added v n).1, m) := by
  cases v with
  | tuple xs => simp only [markFrom, markAll_again added again xs n m]
  | float x =>
      by_cases odd : x.isNaN = true
      · simp only [markFrom, odd, if_true]
      · simp only [markFrom, odd, Bool.false_eq_true, if_false]
  | _ => rfl

theorem markAll_again (added again : Bool) (xs : List Value) (n m : Nat) :
    markAll again (markAll added xs n).1 m = ((markAll added xs n).1, m) := by
  cases xs with
  | nil => rfl
  | cons x rest =>
      simp only [markAll, markFrom_again added again x, markAll_again added again rest]

end

theorem Marked.trans {o : Objects} {u v w : Value} (first : o.Marked u v) (second : o.Marked v w) :
    o.Marked u w := by
  cases second with
  | kept => exact first
  | given later =>
      cases first with
      | kept => exact .given u later
      | given before =>
          rw [markFrom_again]
          exact .given u before

end Objects

namespace Engine

/-! ## What a declaration asks for -/

/-- Whether a caller's inputs are what one declaration asks for. -/
structure Fits (given : List (Value × Value)) (i : String × Input) : Prop where
  required : i.2.required = true -> field? given i.1 ≠ none
  typed : ∀ v, field? given i.1 = some v -> i.2.type.admits v = true

/-- What is said of the inputs that do not fit a declaration. -/
inductive Refuses (given : List (Value × Value)) (i : String × Input) : Error -> Prop where
  | missing (absent : field? given i.1 = none) (required : i.2.required = true) :
      Refuses given i (Error.validation s!"Required input '{i.1}' is missing"
        (some (inputAdvice i.1 i.2)) (some i.1) (some i.2.type.name) none)
  /-- The value is not called what the declaration asks for, unless nothing else is known of it. -/
  | mistyped {v : Value} (found : field? given i.1 = some v) (other : i.2.type.admits v = false)
      (different : v.Known -> InputType.describe v ≠ i.2.type.name) :
      Refuses given i (Error.validation
        s!"Input '{i.1}' should be {i.2.type.name}, got {InputType.describe v}" none
        (some i.1) (some i.2.type.name) (some (InputType.describe v)))

section Check

variable {given : List (Value × Value)} {i : String × Input} {declared : List (String × Input)}

theorem Fits.congr {other : List (Value × Value)} (same : field? other i.1 = field? given i.1) :
    Fits other i ↔ Fits given i := by
  constructor
  · rintro ⟨required, typed⟩
    exact ⟨same ▸ required, same ▸ typed⟩
  · rintro ⟨required, typed⟩
    exact ⟨same.symm ▸ required, same.symm ▸ typed⟩

theorem Refuses.congr {other : List (Value × Value)} (same : field? other i.1 = field? given i.1)
    {problem : Error} (h : Refuses other i problem) : Refuses given i problem := by
  cases h with
  | missing absent required => exact .missing (same ▸ absent) required
  | mistyped found other different => exact .mistyped (same ▸ found) other different

end Check

/-! ## Defaults with their marks -/

section Shared

variable {o : Objects} {given : List (Value × Value)} {declared marked : List (String × Input)}

end Shared

end Engine

namespace Objects

variable {o : Objects}

end Objects

namespace Engine

variable {σ : Type}

/-! ## Executions that start and executions that do not -/

section Start

variable {e : Engine σ} {name : String} {d : Definition}

end Start

/-- A definition that asks for a number and may be given a list. -/
def asking : List (Value × Value) :=
  [(.str "name", .str "w"),
    (.str "inputs", .record [
      ("n", .record [("type", .str "number"), ("required", .bool true)]),
      ("xs", .record [("type", .str "array"), ("default", .list [.int 1])])]),
    (.str "steps", .list [.record [("id", .str "a"), ("type", .str "output")]])]

/-- An engine that loaded nothing but the definition. -/
def asked : Engine Unit :=
  ({ withSteps [] with store := [] }.load [] ⟨⟨"/", ["home"]⟩, []⟩ dawn.fresh.now
    (.entries asking)).1

end Engine

end Workflow
