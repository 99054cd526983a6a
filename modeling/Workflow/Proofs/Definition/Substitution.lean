import Workflow.Proofs.Store.Refusal

/-!
# Definitions in which the environment was put in

The references in the texts of a tree are replaced until no text has one, or it is an error
about loading.  So a tree that comes out of it reads the same under any environment, and
all but the references is as it was.
-/

namespace Workflow

namespace Environment

/-! ## References as they are written -/

/-- The default of a reference as it is written. -/
def Variable.writtenDefault : Option (List Char) -> List Char
  | none => []
  | some text => ':' :: '-' :: text

/-- A reference as it is written. -/
def Variable.written (r : Variable) : List Char :=
  '$' :: '\x7b' :: (r.name ++ Variable.writtenDefault r.default ++ ['\x7d'])

/-- A reference that can be written: nothing in its name ends the name, and nothing in its default the default. -/
structure Variable.Proper (r : Variable) : Prop where
  named : r.name ≠ []
  open_name : ∀ c ∈ r.name, c ≠ '\x7d' ∧ c ≠ ':'
  open_default : ∀ text, r.default = some text -> '\x7d' ∉ text

/-- A text without references. -/
def Clear (s : String) : Prop :=
  ∀ r : Variable, r.Proper -> ¬ r.written <:+: s.toList

/-- A text comes out without references, and as it was when it had none. -/
structure Settles (s t : String) : Prop where
  clear : Clear t
  same : Clear s -> t = s

mutual

/--
Trees of the same shape, with the same keys and leaves, but that the texts are related one
by one.
-/
def TextWise (R : String -> String -> Prop) : Value -> Value -> Prop
  | .str s, w => ∃ t, w = .str t ∧ R s t
  | .list items, w => ∃ others, w = .list others ∧ ItemsWise R items others
  | .dict entries, w => ∃ others, w = .dict others ∧ EntriesWise R entries others
  | v, w => w = v

/-- As many items, which are related one by one. -/
def ItemsWise (R : String -> String -> Prop) : List Value -> List Value -> Prop
  | [], others => others = []
  | x :: rest, others => ∃ y more, others = y :: more ∧ TextWise R x y ∧ ItemsWise R rest more

/-- The same keys in the same order, with values that are related one by one. -/
def EntriesWise (R : String -> String -> Prop) :
    List (Value × Value) -> List (Value × Value) -> Prop
  | [], others => others = []
  | (k, v) :: rest, others =>
      ∃ w more, others = (k, w) :: more ∧ TextWise R v w ∧ EntriesWise R rest more

end

section TextWise

variable {R S : String -> String -> Prop}

mutual

theorem TextWise.mono (h : ∀ s t, R s t -> S s t) {v w : Value} (wise : TextWise R v w) :
    TextWise S v w := by
  cases v with
  | str s =>
      obtain ⟨t, rfl, related⟩ := wise
      exact ⟨t, rfl, h s t related⟩
  | list items =>
      obtain ⟨others, rfl, wise⟩ := wise
      exact ⟨others, rfl, ItemsWise.mono h wise⟩
  | dict entries =>
      obtain ⟨others, rfl, wise⟩ := wise
      exact ⟨others, rfl, EntriesWise.mono h wise⟩
  | _ => exact wise

theorem ItemsWise.mono (h : ∀ s t, R s t -> S s t) {xs ys : List Value} (wise : ItemsWise R xs ys) :
    ItemsWise S xs ys := by
  cases xs with
  | nil => exact wise
  | cons x rest =>
      obtain ⟨y, more, rfl, here, later⟩ := wise
      exact ⟨y, more, rfl, TextWise.mono h here, ItemsWise.mono h later⟩

theorem EntriesWise.mono (h : ∀ s t, R s t -> S s t) {es fs : List (Value × Value)}
    (wise : EntriesWise R es fs) : EntriesWise S es fs := by
  match es, wise with
  | [], wise => exact wise
  | (k, v) :: rest, wise =>
      obtain ⟨w, more, rfl, here, later⟩ := wise
      exact ⟨w, more, rfl, TextWise.mono h here, EntriesWise.mono h later⟩

end

mutual

/-- What is related to the texts of a tree is itself related to them, where that holds text by text. -/
theorem TextWise.diagonal (h : ∀ s t, R s t -> S t t) {v w : Value} (wise : TextWise R v w) :
    TextWise S w w := by
  cases v with
  | str s =>
      obtain ⟨t, rfl, related⟩ := wise
      exact ⟨t, rfl, h s t related⟩
  | list items =>
      obtain ⟨others, rfl, wise⟩ := wise
      exact ⟨others, rfl, ItemsWise.diagonal h wise⟩
  | dict entries =>
      obtain ⟨others, rfl, wise⟩ := wise
      exact ⟨others, rfl, EntriesWise.diagonal h wise⟩
  | _ => cases wise; rfl

theorem ItemsWise.diagonal (h : ∀ s t, R s t -> S t t) {xs ys : List Value}
    (wise : ItemsWise R xs ys) : ItemsWise S ys ys := by
  cases xs with
  | nil => cases wise; rfl
  | cons x rest =>
      obtain ⟨y, more, rfl, here, later⟩ := wise
      exact ⟨y, more, rfl, TextWise.diagonal h here, ItemsWise.diagonal h later⟩

theorem EntriesWise.diagonal (h : ∀ s t, R s t -> S t t) {es fs : List (Value × Value)}
    (wise : EntriesWise R es fs) : EntriesWise S fs fs := by
  match es, wise with
  | [], wise => cases wise; rfl
  | (k, v) :: rest, wise =>
      obtain ⟨w, more, rfl, here, later⟩ := wise
      exact ⟨w, more, rfl, TextWise.diagonal h here, EntriesWise.diagonal h later⟩

end

end TextWise

/-- A result of two parts comes from a result of each. -/
theorem bind_eq_ok {ε α β : Type} {r : Except ε α} {k : α -> Except ε β} {b : β} :
    (r >>= k) = .ok b ↔ ∃ a, r = .ok a ∧ k a = .ok b := by
  cases r with
  | error e => simp [bind, Except.bind]
  | ok a => simp [bind, Except.bind]

/-- A result that is made of another one. -/
theorem map_eq_ok {ε α β : Type} {r : Except ε α} {f : α -> β} {b : β} :
    (do .ok (f (<- r))) = .ok b ↔ ∃ a, b = f a ∧ r = .ok a := by
  rw [bind_eq_ok]
  exact exists_congr fun a => by rw [Except.ok.injEq, and_comm, eq_comm]

mutual

/-- A tree comes out as the tree of what its texts come out as. -/
theorem substitute_iff (env : Environment) (v w : Value) : substitute env v = .ok w ↔
    TextWise (fun s t => substituteText env maxDepth s = .ok t) v w := by
  cases v with
  | str s => simp only [substitute, map_eq_ok, TextWise]
  | list items => simp only [substitute, map_eq_ok, substituteItems_iff env items, TextWise]
  | dict entries => simp only [substitute, map_eq_ok, substituteEntries_iff env entries, TextWise]
  | _ => simp only [substitute, TextWise, Except.ok.injEq, eq_comm]

theorem substituteItems_iff (env : Environment) (xs ys : List Value) :
    substituteItems env xs = .ok ys ↔
      ItemsWise (fun s t => substituteText env maxDepth s = .ok t) xs ys := by
  cases xs with
  | nil => simp only [substituteItems, ItemsWise, Except.ok.injEq, eq_comm]
  | cons x rest =>
      simp only [substituteItems, bind_eq_ok, substitute_iff env x, substituteItems_iff env rest,
        ItemsWise, Except.ok.injEq]
      constructor
      · rintro ⟨y, here, more, later, rfl⟩
        exact ⟨y, more, rfl, here, later⟩
      · rintro ⟨y, more, rfl, here, later⟩
        exact ⟨y, here, more, later, rfl⟩

theorem substituteEntries_iff (env : Environment) (es fs : List (Value × Value)) :
    substituteEntries env es = .ok fs ↔
      EntriesWise (fun s t => substituteText env maxDepth s = .ok t) es fs := by
  match es with
  | [] => simp only [substituteEntries, EntriesWise, Except.ok.injEq, eq_comm]
  | (k, v) :: rest =>
      simp only [substituteEntries, bind_eq_ok, substitute_iff env v,
        substituteEntries_iff env rest, EntriesWise, Except.ok.injEq]
      constructor
      · rintro ⟨w, here, more, later, rfl⟩
        exact ⟨w, more, rfl, here, later⟩
      · rintro ⟨w, more, rfl, here, later⟩
        exact ⟨w, here, more, later, rfl⟩

end

end Environment

end Workflow
