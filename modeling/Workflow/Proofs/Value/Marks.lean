import Workflow.Proofs.Reference.Plain

/-!
# Keys of values that get marks

Giving marks to the changeable values in a value does not change what its keys lead to, as
long as no change is noted under the marks that are given.
-/

namespace Workflow

open Value (get? field?)

namespace Objects

mutual

/-- Marks are given from a number on. -/
theorem le_markFrom (added : Bool) (v : Value) (n : Nat) : n ≤ (markFrom added v n).2 := by
  cases v with
  | list xs => exact Nat.le_succ_of_le (le_markAll added xs n)
  | dict entries => exact Nat.le_succ_of_le (le_markEntries added entries n)
  | set xs => exact Nat.le_succ n
  | tuple xs => exact le_markAll added xs n
  | float x => unfold markFrom; split <;> omega
  | _ => exact Nat.le_refl n

theorem le_markAll (added : Bool) (xs : List Value) (n : Nat) : n ≤ (markAll added xs n).2 := by
  cases xs with
  | nil => exact Nat.le_refl n
  | cons x rest => exact Nat.le_trans (le_markFrom added x n) (le_markAll added rest _)

theorem le_markEntries (added : Bool) (entries : List (Value × Value)) (n : Nat) :
    n ≤ (markEntries added entries n).2 := by
  cases entries with
  | nil => exact Nat.le_refl n
  | cons e rest =>
      obtain ⟨k, v⟩ := e
      exact Nat.le_trans (Nat.le_trans (le_markFrom added k n) (le_markFrom added v _))
        (le_markEntries added rest _)

end

mutual

/-- Marks do not change the data of a value. -/
theorem unmarked_markFrom (added : Bool) (v : Value) (n : Nat) :
    (markFrom added v n).1.unmarked = v.unmarked := by
  cases v with
  | list xs => exact congrArg Value.list (unmarkedAll_markAll added xs n)
  | dict entries => exact congrArg Value.dict (unmarkedEntries_markEntries added entries n)
  | tuple xs => exact congrArg Value.tuple (unmarkedAll_markAll added xs n)
  | float x =>
      unfold markFrom
      split <;> rfl
  | _ => rfl

theorem unmarkedAll_markAll (added : Bool) (xs : List Value) (n : Nat) :
    Value.unmarkedAll (markAll added xs n).1 = Value.unmarkedAll xs := by
  cases xs with
  | nil => rfl
  | cons x rest =>
      simp only [markAll, Value.unmarkedAll, unmarked_markFrom added x n,
        unmarkedAll_markAll added rest]

theorem unmarkedEntries_markEntries (added : Bool) (entries : List (Value × Value)) (n : Nat) :
    Value.unmarkedEntries (markEntries added entries n).1 = Value.unmarkedEntries entries := by
  cases entries with
  | nil => rfl
  | cons e rest =>
      obtain ⟨k, v⟩ := e
      simp only [markEntries, Value.unmarkedEntries, unmarked_markFrom added k n,
        unmarked_markFrom added v, unmarkedEntries_markEntries added rest]

end

/-- No change is noted under the marks that are given next. -/
def Unused (o : Objects) : Prop :=
  ∀ n, o.next ≤ n → o.current? ⟨false, n⟩ = none

/-- A value that got its marks after a store of changes was made. -/
inductive Marked (o : Objects) : Value -> Value -> Prop
  | kept (v : Value) : Marked o v v
  | given (v : Value) {n : Nat} (later : o.next ≤ n) : Marked o v (markFrom false v n).1

section Marked

variable {o : Objects}

/-- The parts of entries that get marks are those parts with marks. -/
theorem field?_markEntries (entries : List (Value × Value)) (key : String) {n : Nat}
    (later : o.next ≤ n) :
    ∃ k, o.next ≤ k ∧ field? (markEntries false entries n).1 key =
      (field? entries key).map fun part => (markFrom false part k).1 := by
  induction entries generalizing n with
  | nil => exact ⟨n, later, rfl⟩
  | cons e rest ih =>
      obtain ⟨name, v⟩ := e
      have beyond := Nat.le_trans later (le_markFrom false name n)
      obtain ⟨k, hk, found⟩ := ih (Nat.le_trans beyond (le_markFrom false v _))
      simp only [markEntries]
      rcases field?_cons name v rest key with ⟨same, here⟩ | ⟨other, here⟩
      · subst same
        exact ⟨_, beyond, by rw [here]; simp [field?, markFrom]⟩
      · refine ⟨k, hk, ?_⟩
        rw [here, ← found]
        rcases field?_cons (markFrom false name n).1 _ _ key with ⟨same, _⟩ | ⟨_, there⟩
        · exact absurd ((markFrom_text false name n key).mp same) other
        · exact there

/-- Two values have the same methods and keys, and the parts under the keys differ in marks only. -/
structure Likewise (o : Objects) (m m' : Value) : Prop where
  methods : m'.methodNames = m.methodNames
  mapping : m'.entries?.isSome = m.entries?.isSome
  absent : ∀ key, get? m key = none → get? m' key = none
  present : ∀ key part, get? m key = some part → ∃ p, get? m' key = some p ∧ o.Marked part p

theorem Likewise.refl (o : Objects) (m : Value) : o.Likewise m m :=
  ⟨rfl, rfl, fun _ => id, fun _ part found => ⟨part, found, .kept part⟩⟩

/-- Values that are no mappings have no keys. -/
theorem Likewise.of_keyless {m m' : Value} (methods : m'.methodNames = m.methodNames)
    (h : m.entries? = none) (h' : m'.entries? = none) : o.Likewise m m' where
  methods := methods
  mapping := by rw [h, h']
  absent key _ := by rw [Value.get?, h']; rfl
  present key part found := by
    rw [Value.get?, h] at found
    cases found

theorem Likewise.of_entries (entries : List (Value × Value)) {n : Nat} (later : o.next ≤ n)
    (m : Mark) : o.Likewise (.dict entries) (.object m (.dict (markEntries false entries n).1)) where
  methods := rfl
  mapping := rfl
  absent key none := by
    obtain ⟨k, _, found⟩ := field?_markEntries entries key later
    exact found.trans (by rw [show field? entries key = _ from none]; rfl)
  present key part some := by
    obtain ⟨k, hk, found⟩ := field?_markEntries entries key later
    exact ⟨_, found.trans (by rw [show field? entries key = _ from some]; rfl), .given part hk⟩

/-- A value with marks holds what it holds without them, but for the marks. -/
theorem Marked.look (unused : o.Unused) {v w : Value} (h : o.Marked v w) :
    o.Likewise (o.look v) (o.look w) := by
  cases h with
  | kept => exact .refl o _
  | @given n later =>
      have fresh {k : Nat} (hk : n ≤ k) (content : Value) :
          o.look (.object ⟨false, k⟩ content) = .object ⟨false, k⟩ content := by
        simp only [Objects.look, unused k (Nat.le_trans later hk), Option.getD_none]
      cases v with
      | dict entries =>
          have held := fresh (le_markEntries false entries n) (.dict (markEntries false entries n).1)
          exact held.symm ▸ .of_entries entries later _
      | list xs =>
          have held := fresh (le_markAll false xs n) (.list (markAll false xs n).1)
          exact held.symm ▸ .of_keyless rfl rfl rfl
      | set xs => exact (fresh (Nat.le_refl n) (.set xs)).symm ▸ .of_keyless rfl rfl rfl
      | tuple xs => exact .of_keyless rfl rfl rfl
      | float x =>
          simp only [markFrom]
          split
          · exact (fresh (Nat.le_refl n) (.float x)).symm ▸ .of_keyless rfl rfl rfl
          · exact .refl o _
      | _ => exact .refl o _

/-- A mapping that gets marks stays as it is, or holds entries with marks. -/
theorem Marked.look_of_mapping (unused : o.Unused) {v w : Value} (h : o.Marked v w)
    (mapping : (o.look v).entries?.isSome) : o.look w = o.look v ∨ ∃ entries mark n,
      o.look v = .dict entries ∧ o.look w = .object mark (.dict (markEntries false entries n).1) := by
  cases h with
  | kept => exact .inl rfl
  | @given n later =>
      cases v with
      | dict entries =>
          have beyond := Nat.le_trans later (le_markEntries false entries n)
          refine .inr ⟨entries, ⟨false, (markEntries false entries n).2⟩, n, rfl, ?_⟩
          simp only [markFrom, Objects.look, unused _ beyond, Option.getD_none]
      | object | «sealed» => exact .inl rfl
      | _ => cases mapping

end Marked

end Objects

end Workflow
