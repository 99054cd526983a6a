import Workflow.Proofs.Reference.Following
import Workflow.Proofs.Value.Marks

/-!
# Values that are seen whole

What a changeable value holds by now is looked up down to some depth, and not again inside
itself.  A value that ends before that is seen whole: from any depth that suffices it is the
same, looking again shows nothing new, and marks that it gets change nothing in its data.
-/

namespace Workflow

namespace Objects

/-- A mark that was given to some value. -/
def Given (o : Objects) (m : Mark) : Prop :=
  m.number < if m.added then o.nextAdded else o.next

instance (o : Objects) (m : Mark) : Decidable (o.Given m) :=
  inferInstanceAs (Decidable (_ < _))

/--
Looking into a value ends before some depth and meets no mark below itself or below some
others.  All marks in it were given, and mappings that can only be read hold texts.
-/
def WholeWithin (o : Objects) : Nat -> List Mark -> Value -> Prop
  | 0, _, _ => False
  | depth + 1, path, v =>
      match v with
      | .object m old =>
          m ∉ path ∧ o.Given m ∧ WholeWithin o depth (m :: path) ((o.current? m).getD old)
      | .list xs => ∀ x ∈ xs, WholeWithin o depth path x
      | .tuple xs => ∀ x ∈ xs, WholeWithin o depth path x
      | .set xs => ∀ x ∈ xs, WholeWithin o depth path x
      | .dict entries => ∀ e ∈ entries, WholeWithin o depth path e.1 ∧ WholeWithin o depth path e.2
      | .sealed entries => ∀ e ∈ entries, ∃ s, e.2 = .str s
      | .view _ owner => WholeWithin o depth path owner
      | .method receiver _ => WholeWithin o depth path receiver
      | _ => True

/-- A changeable value shows what it holds by now, unless it is around itself. -/
theorem refreshWithin_object (o : Objects) (depth : Nat) {path : List Mark} {m : Mark}
    (outside : m ∉ path) (old : Value) :
    o.refreshWithin (depth + 1) path (.object m old) =
      .object m (o.refreshWithin depth (m :: path) ((o.current? m).getD old)) := by
  simp only [refreshWithin, List.contains_eq_mem, outside, decide_false, Bool.false_eq_true, if_false]

/-- What a value shows shows nothing new. -/
theorem refreshWithin_again (o : Objects) (depth : Nat) (path : List Mark) (v : Value) :
    o.refreshWithin depth path (o.refreshWithin depth path v) = o.refreshWithin depth path v := by
  induction depth generalizing path v with
  | zero => rfl
  | succ depth ih =>
      have all (xs : List Value) :
          (xs.map (o.refreshWithin depth path)).map (o.refreshWithin depth path) =
            xs.map (o.refreshWithin depth path) := by
        rw [List.map_map]
        exact List.map_congr_left fun x _ => ih path x
      cases v with
      | object m old =>
          by_cases around : m ∈ path
          · simp [refreshWithin, around, Value.kind]
          · rw [refreshWithin_object o depth around, refreshWithin_object o depth around]
            cases now : o.current? m with
            | none => rw [Option.getD_none, Option.getD_none, ih]
            | some content => rw [Option.getD_some, Option.getD_some]
      | list xs => simp only [refreshWithin, all]
      | tuple xs => simp only [refreshWithin, all]
      | set xs => simp only [refreshWithin, all]
      | dict entries =>
          simp only [refreshWithin, List.map_map]
          congr 1
          refine List.map_congr_left fun e _ => ?_
          simp only [Function.comp_apply, ih]
      | view kind owner => simp only [refreshWithin, ih]
      | method receiver name => simp only [refreshWithin, ih]
      | _ => rfl

namespace WholeWithin

variable {o : Objects} {depth deeper : Nat} {path less : List Mark} {v : Value}

/-- A value that is seen whole is seen the same from a greater depth and below other marks. -/
theorem weaken (whole : o.WholeWithin depth path v) (deep : depth ≤ deeper)
    (sub : ∀ m ∈ less, m ∈ path ∨ ¬ o.Given m) :
    o.WholeWithin deeper less v ∧ o.refreshWithin deeper less v = o.refreshWithin depth path v := by
  induction depth generalizing deeper path less v with
  | zero => exact whole.elim
  | succ depth ih =>
      obtain ⟨deeper, rfl⟩ : ∃ n, deeper = n + 1 := ⟨deeper - 1, by omega⟩
      have deep : depth ≤ deeper := by omega
      have all {xs : List Value} (h : ∀ x ∈ xs, o.WholeWithin depth path x) :
          (∀ x ∈ xs, o.WholeWithin deeper less x) ∧
            xs.map (o.refreshWithin deeper less) = xs.map (o.refreshWithin depth path) :=
        ⟨fun x hx => (ih (h x hx) deep sub).1,
          List.map_congr_left fun x hx => (ih (h x hx) deep sub).2⟩
      cases v with
      | object m old =>
          obtain ⟨outside, given, inner⟩ := whole
          have apart : m ∉ less := fun mem => (sub m mem).elim outside fun h => h given
          have sub' : ∀ k ∈ m :: less, k ∈ m :: path ∨ ¬ o.Given k := by
            intro k mem
            rcases List.mem_cons.mp mem with rfl | later
            · exact .inl List.mem_cons_self
            · exact (sub k later).imp (List.mem_cons_of_mem m) id
          obtain ⟨held, same⟩ := ih inner deep sub'
          refine ⟨⟨apart, given, held⟩, ?_⟩
          rw [refreshWithin_object o deeper apart, refreshWithin_object o depth outside, same]
      | list xs =>
          obtain ⟨held, same⟩ := all whole
          exact ⟨held, by simp only [refreshWithin, same]⟩
      | tuple xs =>
          obtain ⟨held, same⟩ := all whole
          exact ⟨held, by simp only [refreshWithin, same]⟩
      | set xs =>
          obtain ⟨held, same⟩ := all whole
          exact ⟨held, by simp only [refreshWithin, same]⟩
      | dict entries =>
          have each (e) (mem : e ∈ entries) := whole e mem
          refine ⟨fun e mem => ⟨(ih (each e mem).1 deep sub).1, (ih (each e mem).2 deep sub).1⟩, ?_⟩
          simp only [refreshWithin]
          congr 1
          refine List.map_congr_left fun e mem => ?_
          rw [(ih (each e mem).1 deep sub).2, (ih (each e mem).2 deep sub).2]
      | view kind owner =>
          obtain ⟨held, same⟩ := ih whole deep sub
          exact ⟨held, by simp only [refreshWithin, same]⟩
      | method receiver name =>
          obtain ⟨held, same⟩ := ih whole deep sub
          exact ⟨held, by simp only [refreshWithin, same]⟩
      | _ => exact ⟨whole, rfl⟩

/-- Below no marks at all it is seen the same. -/
theorem deepen (whole : o.WholeWithin depth path v) (deep : depth ≤ deeper) :
    o.WholeWithin deeper [] v ∧ o.refreshWithin deeper [] v = o.refreshWithin depth path v :=
  whole.weaken deep (by simp)

/-- Where nothing changed, looking into a value shows the value. -/
theorem of_unchanged (unchanged : o.changes = []) (whole : o.WholeWithin depth path v) :
    o.refreshWithin depth path v = v := by
  induction depth generalizing path v with
  | zero => exact whole.elim
  | succ depth ih =>
      have all {xs : List Value} (h : ∀ x ∈ xs, o.WholeWithin depth path x) :
          xs.map (o.refreshWithin depth path) = xs :=
        (List.map_congr_left fun x hx => ih (h x hx)).trans (List.map_id' xs)
      cases v with
      | object m old =>
          obtain ⟨outside, _, inner⟩ := whole
          have none : o.current? m = none := by simp [current?, unchanged]
          rw [none, Option.getD_none] at inner
          rw [refreshWithin_object o depth outside, none, Option.getD_none, ih inner]
      | list xs => simp only [refreshWithin, all whole]
      | tuple xs => simp only [refreshWithin, all whole]
      | set xs => simp only [refreshWithin, all whole]
      | dict entries =>
          simp only [refreshWithin]
          congr 1
          refine (List.map_congr_left fun e mem => ?_).trans (List.map_id' entries)
          rw [ih (whole e mem).1, ih (whole e mem).2]
      | view kind owner => simp only [refreshWithin, ih whole]
      | method receiver name => simp only [refreshWithin, ih whole]
      | _ => rfl

/-- What a value that is seen whole shows is seen whole. -/
theorem again (whole : o.WholeWithin depth path v) :
    o.WholeWithin depth path (o.refreshWithin depth path v) := by
  induction depth generalizing path v with
  | zero => exact whole.elim
  | succ depth ih =>
      cases v with
      | object m old =>
          obtain ⟨outside, given, inner⟩ := whole
          rw [refreshWithin_object o depth outside]
          refine ⟨outside, given, ?_⟩
          cases now : o.current? m with
          | none =>
              rw [now, Option.getD_none] at inner
              exact ih inner
          | some content => simpa only [now, Option.getD_some] using inner
      | list xs => exact List.forall_mem_map.mpr fun x mem => ih (whole x mem)
      | tuple xs => exact List.forall_mem_map.mpr fun x mem => ih (whole x mem)
      | set xs => exact List.forall_mem_map.mpr fun x mem => ih (whole x mem)
      | dict entries =>
          exact List.forall_mem_map.mpr fun e mem => ⟨ih (whole e mem).1, ih (whole e mem).2⟩
      | view kind owner => exact ih (v := owner) whole
      | method receiver name => exact ih (v := receiver) whole
      | _ => exact whole

/-! ## Values that get marks -/

/-- Marks that are given later than some number. -/
def Later (n : Nat) (path : List Mark) : Prop :=
  ∀ m ∈ path, m.added = false ∧ n ≤ m.number

theorem Later.not_given {n : Nat} (later : Later n path) (beyond : o.next ≤ n) :
    ∀ m ∈ path, m ∈ less ∨ ¬ o.Given m := by
  intro m mem
  obtain ⟨own, bound⟩ := later m mem
  refine .inr fun given => ?_
  simp only [Given, own, Bool.false_eq_true, if_false] at given
  omega

theorem Later.not_mem {n : Nat} (later : Later (n + 1) path) : ⟨false, n⟩ ∉ path := fun mem =>
  absurd (later _ mem).2 (Nat.not_succ_le_self n)

theorem Later.cons {n : Nat} (later : Later (n + 1) path) : Later n (⟨false, n⟩ :: path) := by
  intro m mem
  rcases List.mem_cons.mp mem with rfl | mem
  · exact ⟨rfl, Nat.le_refl n⟩
  · exact ⟨(later m mem).1, Nat.le_of_succ_le (later m mem).2⟩

theorem Later.mono {n k : Nat} (later : Later k path) (h : n ≤ k) : Later n path := fun m mem =>
  ⟨(later m mem).1, Nat.le_trans h (later m mem).2⟩

/-- A value that gets a mark of its own shows what it held, below that mark. -/
theorem unmarked_fresh (unused : o.Unused) {n : Nat} (beyond : o.next ≤ n)
    (later : Later (n + 1) path) (content : Value) :
    (o.refreshWithin (depth + 1) path (.object ⟨false, n⟩ content)).unmarked =
      (o.refreshWithin depth (⟨false, n⟩ :: path) content).unmarked := by
  rw [refreshWithin_object o depth later.not_mem, unused n beyond, Option.getD_none]
  rfl

/-- Values that are seen whole from some depth show the same data with marks, from twice the depth. -/
def KeepsData (o : Objects) (depth : Nat) : Prop :=
  ∀ (v : Value) (n k : Nat) (path : List Mark), o.WholeWithin depth [] v → o.next ≤ n →
    2 * depth ≤ k → Later (markFrom false v n).2 path →
      (o.refreshWithin k path (markFrom false v n).1).unmarked =
        (o.refreshWithin depth [] v).unmarked

theorem KeepsData.items (keeps : KeepsData o depth) {xs : List Value}
    (whole : ∀ x ∈ xs, o.WholeWithin depth [] x) {n k : Nat} (beyond : o.next ≤ n)
    (deep : 2 * depth ≤ k) (later : Later (markAll false xs n).2 path) :
    Value.unmarkedAll ((markAll false xs n).1.map (o.refreshWithin k path)) =
      Value.unmarkedAll (xs.map (o.refreshWithin depth [])) := by
  induction xs generalizing n with
  | nil => rfl
  | cons x rest ih =>
      obtain ⟨first, whole⟩ := List.forall_mem_cons.mp whole
      have next := Nat.le_trans beyond (le_markFrom false x n)
      have after := le_markAll false rest (markFrom false x n).2
      simp only [markAll, List.map_cons, Value.unmarkedAll] at later ⊢
      rw [keeps x n k path first beyond deep (later.mono after), ih whole next later]

theorem KeepsData.members (keeps : KeepsData o depth) {entries : List (Value × Value)}
    (whole : ∀ e ∈ entries, o.WholeWithin depth [] e.1 ∧ o.WholeWithin depth [] e.2) {n k : Nat}
    (beyond : o.next ≤ n) (deep : 2 * depth ≤ k) (later : Later (markEntries false entries n).2 path) :
    Value.unmarkedEntries ((markEntries false entries n).1.map fun (a, b) =>
        (o.refreshWithin k path a, o.refreshWithin k path b)) =
      Value.unmarkedEntries (entries.map fun (a, b) =>
        (o.refreshWithin depth [] a, o.refreshWithin depth [] b)) := by
  induction entries generalizing n with
  | nil => rfl
  | cons e rest ih =>
      obtain ⟨⟨key, part⟩, whole⟩ := List.forall_mem_cons.mp whole
      have next := Nat.le_trans beyond (le_markFrom false e.1 n)
      have after := le_markFrom false e.2 (markFrom false e.1 n).2
      have rest_after := le_markEntries false rest (markFrom false e.2 (markFrom false e.1 n).2).2
      simp only [markEntries, List.map_cons, Value.unmarkedEntries] at later ⊢
      rw [keeps e.1 n k path key beyond deep (later.mono (Nat.le_trans after rest_after)),
        keeps e.2 _ k path part next deep (later.mono rest_after),
        ih whole (Nat.le_trans next after) later]

theorem keepsData (unused : o.Unused) (depth : Nat) : KeepsData o depth := by
  induction depth with
  | zero => exact fun v n k path whole => whole.elim
  | succ depth keeps =>
      intro v n k path whole beyond deep later
      obtain ⟨k, rfl⟩ : ∃ j, k = j + 2 := ⟨k - 2, by omega⟩
      have deep : 2 * depth ≤ k := by omega
      have untouched (h : markFrom false v n = (v, n)) :
          (o.refreshWithin (k + 2) path (markFrom false v n).1).unmarked =
            (o.refreshWithin (depth + 1) [] v).unmarked := by
        rw [h] at later ⊢
        rw [(whole.weaken (by omega) (later.not_given beyond)).2]
      cases v with
      | list xs =>
          have inside := Nat.le_trans beyond (le_markAll false xs n)
          refine (unmarked_fresh unused inside later _).trans ?_
          exact congrArg Value.list (keeps.items whole beyond deep later.cons)
      | tuple xs => exact congrArg Value.tuple (keeps.items whole beyond (by omega) later)
      | dict entries =>
          have inside := Nat.le_trans beyond (le_markEntries false entries n)
          refine (unmarked_fresh unused inside later _).trans ?_
          exact congrArg Value.dict (keeps.members whole beyond deep later.cons)
      | set xs =>
          refine (unmarked_fresh unused beyond later (.set xs)).trans ?_
          have same : xs.map (o.refreshWithin k (⟨false, n⟩ :: path)) =
              xs.map (o.refreshWithin depth []) := List.map_congr_left fun x mem =>
            ((whole x mem).weaken (by omega) (later.cons.not_given beyond)).2
          simp only [refreshWithin, same]
      | float x =>
          by_cases odd : x.isNaN = true
          · simp only [markFrom, odd, if_true] at later ⊢
            exact unmarked_fresh unused beyond later (.float x)
          · exact untouched (by simp only [markFrom, odd, Bool.false_eq_true, if_false])
      | _ => exact untouched rfl

end WholeWithin

/-- A value is seen whole, also inside a mapping of mappings and with marks for all its parts. -/
def Whole (o : Objects) (v : Value) : Prop :=
  o.WholeWithin (maxDepth / 2 - 2) [] v

/-- A value that is seen whole from some depth shows what it shows from there. -/
theorem WholeWithin.refresh {o : Objects} {depth : Nat} {v : Value}
    (whole : o.WholeWithin depth [] v) (deep : depth ≤ maxDepth) :
    o.refresh v = o.refreshWithin depth [] v := by
  unfold Objects.refresh
  split
  · next none => exact (whole.of_unchanged (List.isEmpty_iff.mp none)).symm
  · exact (whole.deepen deep).2

/-- What a value shows that gets marks is the data that it shows without them. -/
theorem WholeWithin.unmarked_refresh {o : Objects} (unused : o.Unused) {depth : Nat} {v : Value}
    (whole : o.WholeWithin depth [] v) (deep : 2 * depth ≤ maxDepth) {w : Value}
    (marked : o.Marked v w) : (o.refresh w).unmarked = (o.refresh v).unmarked := by
  cases marked with
  | kept => rfl
  | @given n later =>
      by_cases unchanged : o.changes = []
      · rw [refresh_of_unchanged unchanged, refresh_of_unchanged unchanged]
        exact unmarked_markFrom false v n
      · have shown : o.refresh (markFrom false v n).1 =
            o.refreshWithin maxDepth [] (markFrom false v n).1 := by
          rw [Objects.refresh, if_neg (by simpa using unchanged)]
        rw [shown, whole.refresh (by omega)]
        exact WholeWithin.keepsData unused depth v n maxDepth [] whole later deep (by simp [Later])

end Objects

end Workflow
