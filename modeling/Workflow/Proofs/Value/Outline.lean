import Workflow.Proofs.Value.Whole

/-!
# Outlines of values

A changeable value is known by its mark, whatever it holds.  The outline of a value is what
there is of it up to the values that had a mark before: looking into a value does not change
its outline, and neither do marks for what had none.  So two values of one outline are the
same, also where a value holds itself and looking into it comes to no end.
-/

namespace Workflow

namespace Objects

variable {o : Objects} {depth k : Nat} {path : List Mark} {v : Value}

/-! ## Values of a store -/

/--
Looking into a value down to some depth meets no mark that was not given, and mappings that
can only be read hold texts.
-/
def SoundWithin (o : Objects) : Nat -> Value -> Prop
  | 0, _ => True
  | depth + 1, v =>
      match v with
      | .object m old => o.Given m ∧ SoundWithin o depth ((o.current? m).getD old)
      | .list xs => ∀ x ∈ xs, SoundWithin o depth x
      | .tuple xs => ∀ x ∈ xs, SoundWithin o depth x
      | .set xs => ∀ x ∈ xs, SoundWithin o depth x
      | .dict entries => ∀ e ∈ entries, SoundWithin o depth e.1 ∧ SoundWithin o depth e.2
      | .sealed entries => ∀ e ∈ entries, ∃ s, e.2 = .str s
      | .view _ owner => SoundWithin o depth owner
      | .method receiver _ => SoundWithin o depth receiver
      | _ => True

/-- However deep one looks, a value is one of the store. -/
def Sound (o : Objects) (v : Value) : Prop :=
  ∀ depth, o.SoundWithin depth v

theorem Sound.content {m : Mark} {old : Value} (h : o.Sound (.object m old)) :
    o.Sound ((o.current? m).getD old) :=
  fun depth => (h (depth + 1)).2

theorem Sound.item {xs : List Value} (h : o.Sound (.list xs)) {x : Value} (mem : x ∈ xs) :
    o.Sound x :=
  fun depth => h (depth + 1) x mem

theorem Sound.component {xs : List Value} (h : o.Sound (.tuple xs)) {x : Value} (mem : x ∈ xs) :
    o.Sound x :=
  fun depth => h (depth + 1) x mem

theorem sound_dict {entries : List (Value × Value)} :
    o.Sound (.dict entries) ↔ ∀ e ∈ entries, o.Sound e.1 ∧ o.Sound e.2 := by
  refine ⟨fun h e mem => ⟨fun depth => (h (depth + 1) e mem).1, fun depth => (h (depth + 1) e mem).2⟩,
    fun h depth => ?_⟩
  cases depth with
  | zero => trivial
  | succ depth => exact fun e mem => ⟨(h e mem).1 depth, (h e mem).2 depth⟩

theorem sound_str (s : String) : o.Sound (.str s) := fun depth => by
  cases depth <;> trivial

/-- What a value shows is one of the store. -/
theorem SoundWithin.refresh (h : o.SoundWithin k v) :
    o.SoundWithin k (o.refreshWithin depth path v) := by
  induction depth generalizing k path v with
  | zero => exact h
  | succ depth ih =>
      cases k with
      | zero => trivial
      | succ k =>
          cases v with
          | object m old =>
              obtain ⟨given, inner⟩ := h
              simp only [refreshWithin]
              split
              · refine ⟨given, ?_⟩
                cases now : o.current? m with
                | none => cases k <;> trivial
                | some content => simpa only [now, Option.getD_some] using inner
              · refine ⟨given, ?_⟩
                cases now : o.current? m with
                | none =>
                    rw [now, Option.getD_none] at inner
                    exact ih inner
                | some content => simpa only [now, Option.getD_some] using inner
          | list xs => exact List.forall_mem_map.mpr fun x mem => ih (h x mem)
          | tuple xs => exact List.forall_mem_map.mpr fun x mem => ih (h x mem)
          | set xs => exact List.forall_mem_map.mpr fun x mem => ih (h x mem)
          | dict entries =>
              exact List.forall_mem_map.mpr fun e mem => ⟨ih (h e mem).1, ih (h e mem).2⟩
          | view kind owner => exact ih (v := owner) h
          | method receiver name => exact ih (v := receiver) h
          | _ => exact h

/-- Values are looked into to the same depth, or not at all where none has changed. -/
theorem refresh_eq (o : Objects) : ∃ depth, ∀ v, o.refresh v = o.refreshWithin depth [] v := by
  unfold refresh
  split
  · exact ⟨0, fun _ => rfl⟩
  · exact ⟨maxDepth, fun _ => rfl⟩

theorem Sound.refresh (h : o.Sound v) : o.Sound (o.refresh v) := by
  obtain ⟨depth, shown⟩ := o.refresh_eq
  rw [shown]
  exact fun k => (h k).refresh

/-! ## Outlines -/

mutual

/-- What there is of a value up to the values with marks that were given; new marks are left out. -/
def outline (o : Objects) : Value -> Value
  | .object m content => if o.Given m then .object m .null else outline o content
  | .list xs => .list (outlineAll o xs)
  | .tuple xs => .tuple (outlineAll o xs)
  | .set xs => .set (outlineAll o xs)
  | .dict entries => .dict (outlineEntries o entries)
  | .view kind owner => .view kind (outline o owner)
  | .method receiver name => .method (outline o receiver) name
  | v => v

/-- The outlines of items. -/
def outlineAll (o : Objects) : List Value -> List Value
  | [] => []
  | x :: rest => outline o x :: outlineAll o rest

/-- The outlines of entries. -/
def outlineEntries (o : Objects) : List (Value × Value) -> List (Value × Value)
  | [] => []
  | (k, v) :: rest => (outline o k, outline o v) :: outlineEntries o rest

end

theorem outlineAll_map {f : Value -> Value} {xs : List Value}
    (h : ∀ x ∈ xs, o.outline (f x) = o.outline x) : o.outlineAll (xs.map f) = o.outlineAll xs := by
  induction xs with
  | nil => rfl
  | cons x rest ih =>
      obtain ⟨first, others⟩ := List.forall_mem_cons.mp h
      simp only [List.map_cons, outlineAll, first, ih others]

theorem outlineEntries_map {f : Value -> Value} {entries : List (Value × Value)}
    (h : ∀ e ∈ entries, o.outline (f e.1) = o.outline e.1 ∧ o.outline (f e.2) = o.outline e.2) :
    o.outlineEntries (entries.map fun e => (f e.1, f e.2)) = o.outlineEntries entries := by
  induction entries with
  | nil => rfl
  | cons e rest ih =>
      obtain ⟨first, others⟩ := List.forall_mem_cons.mp h
      simp only [List.map_cons, outlineEntries, first, ih others]

/-- Looking into a value does not change its outline. -/
theorem outline_refreshWithin (h : o.SoundWithin depth v) :
    o.outline (o.refreshWithin depth path v) = o.outline v := by
  induction depth generalizing path v with
  | zero => rfl
  | succ depth ih =>
      cases v with
      | object m old =>
          have given : o.Given m := h.1
          simp only [refreshWithin]
          split <;> simp only [outline, given, if_true]
      | list xs => exact congrArg Value.list (outlineAll_map fun x mem => ih (h x mem))
      | tuple xs => exact congrArg Value.tuple (outlineAll_map fun x mem => ih (h x mem))
      | set xs => exact congrArg Value.set (outlineAll_map fun x mem => ih (h x mem))
      | dict entries =>
          exact congrArg Value.dict (outlineEntries_map fun e mem => ⟨ih (h e mem).1, ih (h e mem).2⟩)
      | view kind owner => exact congrArg (Value.view kind) (ih (v := owner) h)
      | method receiver name => exact congrArg (Value.method · name) (ih (v := receiver) h)
      | _ => rfl

/-! ## Outlines of values that get marks -/

open WholeWithin (Later)

/-- A value that gets a mark of its own has the outline of what it held. -/
theorem outline_fresh (unused : o.Unused) {n : Nat} (beyond : o.next ≤ n) (later : Later (n + 1) path)
    (content : Value) :
    o.outline (o.refreshWithin depth path (.object ⟨false, n⟩ content)) =
      o.outline (o.refreshWithin (depth - 1) (⟨false, n⟩ :: path) content) := by
  have new : ¬ o.Given ⟨false, n⟩ := Nat.not_lt.mpr beyond
  cases depth with
  | zero => simp only [refreshWithin, outline, new, if_false, Nat.zero_sub]
  | succ depth =>
      rw [refreshWithin_object o depth later.not_mem, unused n beyond, Option.getD_none]
      simp only [outline, new, if_false, Nat.add_sub_cancel]

theorem outline_list (xs : List Value) : o.outline (o.refreshWithin depth path (.list xs)) =
    .list (o.outlineAll (xs.map (o.refreshWithin (depth - 1) path))) := by
  cases depth with
  | zero => simp [refreshWithin, outline]
  | succ depth => simp only [refreshWithin, outline, Nat.add_sub_cancel]

theorem outline_tuple (xs : List Value) : o.outline (o.refreshWithin depth path (.tuple xs)) =
    .tuple (o.outlineAll (xs.map (o.refreshWithin (depth - 1) path))) := by
  cases depth with
  | zero => simp [refreshWithin, outline]
  | succ depth => simp only [refreshWithin, outline, Nat.add_sub_cancel]

theorem outline_dict (entries : List (Value × Value)) :
    o.outline (o.refreshWithin depth path (.dict entries)) =
      .dict (o.outlineEntries (entries.map fun e =>
        (o.refreshWithin (depth - 1) path e.1, o.refreshWithin (depth - 1) path e.2))) := by
  cases depth with
  | zero => simp [refreshWithin, outline]
  | succ depth => simp only [refreshWithin, outline, Nat.add_sub_cancel]

mutual

/-- Marks for what had none do not change the outline of a value. -/
theorem outline_markFrom (unused : o.Unused) (depth : Nat) (path : List Mark) (v : Value) (n : Nat)
    (h : o.Sound v) (beyond : o.next ≤ n) (later : Later (markFrom false v n).2 path) :
    o.outline (o.refreshWithin depth path (markFrom false v n).1) = o.outline v := by
  cases v with
  | list xs =>
      have inside := Nat.le_trans beyond (le_markAll false xs n)
      refine (outline_fresh unused inside later _).trans ((outline_list _).trans ?_)
      exact congrArg Value.list
        (outlineAll_markAll unused _ _ xs n (fun x mem => h.item mem) beyond later.cons)
  | tuple xs =>
      refine (outline_tuple _).trans ?_
      exact congrArg Value.tuple
        (outlineAll_markAll unused _ _ xs n (fun x mem => h.component mem) beyond later)
  | dict entries =>
      have inside := Nat.le_trans beyond (le_markEntries false entries n)
      refine (outline_fresh unused inside later _).trans ((outline_dict _).trans ?_)
      exact congrArg Value.dict
        (outlineEntries_markEntries unused _ _ entries n (sound_dict.mp h) beyond later.cons)
  | set xs => exact (outline_fresh unused beyond later _).trans (outline_refreshWithin (h _))
  | float x =>
      by_cases odd : x.isNaN = true
      · simp only [markFrom, odd, if_true] at later ⊢
        exact (outline_fresh unused beyond later _).trans (outline_refreshWithin (h _))
      · simp only [markFrom, odd, Bool.false_eq_true, if_false]
        exact outline_refreshWithin (h _)
  | _ => exact outline_refreshWithin (h _)

theorem outlineAll_markAll (unused : o.Unused) (depth : Nat) (path : List Mark) (xs : List Value) (n : Nat)
    (h : ∀ x ∈ xs, o.Sound x) (beyond : o.next ≤ n) (later : Later (markAll false xs n).2 path) :
    o.outlineAll ((markAll false xs n).1.map (o.refreshWithin depth path)) = o.outlineAll xs := by
  cases xs with
  | nil => rfl
  | cons x rest =>
      obtain ⟨first, others⟩ := List.forall_mem_cons.mp h
      have next := Nat.le_trans beyond (le_markFrom false x n)
      have after := le_markAll false rest (markFrom false x n).2
      simp only [markAll, List.map_cons, outlineAll] at later ⊢
      rw [outline_markFrom unused depth path x n first beyond (later.mono after),
        outlineAll_markAll unused depth path rest _ others next later]

theorem outlineEntries_markEntries (unused : o.Unused) (depth : Nat) (path : List Mark)
    (entries : List (Value × Value)) (n : Nat) (h : ∀ e ∈ entries, o.Sound e.1 ∧ o.Sound e.2)
    (beyond : o.next ≤ n) (later : Later (markEntries false entries n).2 path) :
    o.outlineEntries ((markEntries false entries n).1.map fun e =>
      (o.refreshWithin depth path e.1, o.refreshWithin depth path e.2)) =
        o.outlineEntries entries := by
  match entries, h with
  | [], _ => rfl
  | (k, v) :: rest, h =>
      obtain ⟨⟨key, part⟩, others⟩ := List.forall_mem_cons.mp h
      have next := Nat.le_trans beyond (le_markFrom false k n)
      have after := le_markFrom false v (markFrom false k n).2
      have rest_after := le_markEntries false rest (markFrom false v (markFrom false k n).2).2
      simp only [markEntries, List.map_cons, outlineEntries] at later ⊢
      rw [outline_markFrom unused depth path k n key beyond (later.mono (Nat.le_trans after rest_after)),
        outline_markFrom unused depth path v _ part next (later.mono rest_after),
        outlineEntries_markEntries unused depth path rest _ others (Nat.le_trans next after) later]

end

/-- What a value shows has the outline of the value, also with marks for what had none. -/
theorem Marked.outline_refresh (unused : o.Unused) (h : o.Sound v) {w : Value}
    (marked : o.Marked v w) : o.outline (o.refresh w) = o.outline v := by
  obtain ⟨depth, shown⟩ := o.refresh_eq
  rw [shown]
  cases marked with
  | kept => exact outline_refreshWithin (h depth)
  | given beyond => exact outline_markFrom unused depth [] v _ h beyond (by simp [Later])

end Objects

end Workflow
