import Workflow.Ledger

/-!
# What a ledger keeps

A ledger over its limit gives up the oldest finished records, no more of them than are
too many.  Records are shared: whoever made a record may end it at any time, and a ledger
that holds it then shows it as it is.  So a ledger may be far above its limit while
executions are going on, and the next record that is added brings it down again as far as
the executions that have ended by then allow.
-/

namespace Workflow

namespace Ledger

/-- Each record stands under its own id, and no id occurs twice. -/
structure Proper (l : Ledger) : Prop where
  own : ∀ e ∈ l.entries, e.2.id = e.1
  once : l.entries.names.Nodup

/-- A ledger in which a record has its place, before any record is given up. -/
def placed (l : Ledger) (x : Execution) : Ledger :=
  { l with entries := l.entries.put x.id x }

/-- The records of a ledger that another one does not have any more, the oldest first. -/
def lost (before after : Ledger) : List Execution :=
  before.toList.filter fun y => (after.get? y.id).isNone

/-- The finished records other than the one under an id, the oldest first. -/
def finishedBut (l : Ledger) (kept : String) : List Execution :=
  l.toList.filter fun y => y.status.finished && y.id != kept

variable {l : Ledger} {x y z : Execution} {kept : String}

/-! ## Records under their own ids -/

theorem add_eq (l : Ledger) (x : Execution) : l.add x = (l.placed x).evict x.id :=
  rfl

theorem Proper.empty (limit : Option Nat) : Proper ⟨limit, []⟩ :=
  ⟨fun _ mem => absurd mem List.not_mem_nil, List.nodup_nil⟩

theorem Proper.placed (h : l.Proper) (x : Execution) : (l.placed x).Proper where
  own e he := by
    have found := (Table.get?_eq_some_iff (Table.nodup_names_put h.once x.id x)).mpr he
    by_cases same : x.id = e.1
    · rw [← same, Table.get?_put_self] at found
      cases found
      exact same
    · rw [Table.get?_put_of_ne _ _ same] at found
      exact h.own e (Table.mem_of_get? found)
  once := Table.nodup_names_put h.once x.id x

theorem Proper.evict (h : l.Proper) (kept : String) : (l.evict kept).Proper where
  own e he := h.own e (List.mem_filter.mp he).1
  once := h.once.sublist (List.filter_sublist.map _)

theorem Proper.add (h : l.Proper) (x : Execution) : (l.add x).Proper :=
  (h.placed x).evict x.id

theorem Proper.update (h : l.Proper) (x : Execution) : (l.update x).Proper where
  own e he := by
    have once : (l.entries.change x.id fun _ => x).names.Nodup := by
      rw [Table.names_change]
      exact h.once
    have found := (Table.get?_eq_some_iff once).mpr he
    by_cases same : x.id = e.1
    · rw [← same, Table.get?_change_self, Option.map_eq_some_iff] at found
      obtain ⟨_, _, known⟩ := found
      rw [← known]
      exact same
    · rw [Table.get?_change_of_ne _ _ same] at found
      exact h.own e (Table.mem_of_get? found)
  once := by
    simp only [Ledger.update, Table.names_change]
    exact h.once

theorem Proper.ids (h : l.Proper) : l.toList.map Execution.id = l.entries.names := by
  simp only [toList, Table.names, List.map_map]
  exact List.map_congr_left fun e he => h.own e he

theorem Proper.get?_eq_some_iff (h : l.Proper) : l.get? y.id = some y ↔ y ∈ l.toList := by
  rw [get?, Table.get?_eq_some_iff h.once, toList, List.mem_map]
  constructor
  · intro mem
    exact ⟨_, mem, rfl⟩
  · rintro ⟨e, mem, rfl⟩
    rwa [h.own e mem]

/-! ## The place of a record -/

/-- A record under a new id comes last. -/
theorem toList_placed_of_new (h : x.id ∉ l.entries.names) :
    (l.placed x).toList = l.toList ++ [x] := by
  simp [placed, toList, Table.put_of_not_mem h]

/-- A record under an id that is there replaces the one that had it, in its place. -/
theorem Proper.toList_placed_of_known (h : l.Proper) (known : x.id ∈ l.entries.names) :
    (l.placed x).toList = l.toList.map fun y => if y.id = x.id then x else y := by
  obtain ⟨own, once⟩ := h
  obtain ⟨limit, entries⟩ := l
  simp only [Ledger.placed, toList] at own once known ⊢
  induction entries with
  | nil => cases known
  | cons e rest ih =>
      have first : e.2.id = e.1 := own e List.mem_cons_self
      have others (e' : String × Execution) (he : e' ∈ rest) : e'.2.id = e'.1 :=
        own e' (List.mem_cons_of_mem _ he)
      simp only [Table.names, List.map_cons, List.nodup_cons] at once known
      by_cases same : e.1 = x.id
      · have unchanged : rest.map (fun e => if e.2.id = x.id then x else e.2) = rest.map (·.2) := by
          refine List.map_congr_left fun e' he => if_neg ?_
          rw [others e' he, ← same]
          intro twice
          exact once.1 (twice ▸ List.mem_map_of_mem he)
        simp [Table.put, same, first, unchanged, Function.comp_def]
      · have later : x.id ∈ Table.names rest :=
          (List.mem_cons.mp known).resolve_left (Ne.symm same)
        simp [Table.put, same, first, ih later others once.2]

/-! ## Giving up records -/

/-- Entries that are a part of a table are those under their names. -/
theorem filter_of_sublist {s t : Table Execution} (part : s.Sublist t) (once : t.names.Nodup) :
    t.filter (fun e => s.names.contains e.1) = s := by
  induction part with
  | slnil => rfl
  | @cons s t e part ih =>
      simp only [Table.names, List.map_cons, List.nodup_cons] at once
      have other : e.1 ∉ Table.names s := fun mem => once.1 ((part.map _).subset mem)
      rw [List.filter_cons_of_neg (by simpa using other), ih once.2]
  | @cons_cons s t e part ih =>
      simp only [Table.names, List.map_cons, List.nodup_cons] at once
      rw [List.filter_cons_of_pos (by simp [Table.names])]
      congr 1
      refine (List.filter_congr fun e' he => ?_).trans (ih once.2)
      have other : e'.1 ≠ e.1 := fun same => once.1 (same ▸ List.mem_map_of_mem he)
      simp [Table.names, other]

/-- The entries of the records that are too many. -/
def spent (l : Ledger) (kept : String) : Table Execution :=
  (l.entries.filter fun (id, x) => x.status.finished && id != kept).take l.excess

theorem spent_sublist (l : Ledger) (kept : String) : (l.spent kept).Sublist l.entries :=
  (List.take_sublist _ _).trans List.filter_sublist

theorem entries_evict (l : Ledger) (kept : String) :
    (l.evict kept).entries = l.entries.filter fun e => !(l.spent kept).names.contains e.1 := by
  simp [evict, evictable, spent, Table.names, List.map_take]

theorem Proper.get?_evict_eq_none (h : l.Proper) (mem : y ∈ l.toList) (kept : String) :
    (l.evict kept).get? y.id = none ↔ y.id ∈ (l.spent kept).names := by
  rw [get?, entries_evict, Table.get?_filter _ fun id => !(l.spent kept).names.contains id]
  have found : l.entries.get? y.id = some y := h.get?_eq_some_iff.mpr mem
  by_cases gone : y.id ∈ (l.spent kept).names <;> simp [gone, found]

/-- Records are given up from the oldest finished one on, as many as are too many. -/
theorem Proper.lost_evict (h : l.Proper) (kept : String) :
    l.lost (l.evict kept) = (l.finishedBut kept).take l.excess := by
  have gone : l.lost (l.evict kept) =
      (l.entries.filter fun e => (l.spent kept).names.contains e.1).map (·.2) := by
    rw [lost, toList, List.filter_map]
    refine congrArg _ (List.filter_congr fun e he => ?_)
    have mem : e.2 ∈ l.toList := List.mem_map_of_mem he
    have absent := h.get?_evict_eq_none mem kept
    rw [h.own e he] at absent
    rw [Function.comp_apply, h.own e he, Bool.eq_iff_iff, Option.isNone_iff_eq_none, absent]
    simp
  rw [gone, filter_of_sublist (l.spent_sublist kept) h.once, spent, finishedBut, toList,
    List.filter_map, List.map_take]
  refine congrArg _ (congrArg _ (List.filter_congr fun e he => ?_))
  simp [h.own e he]

/-- The records that are kept stay in their order. -/
theorem Proper.toList_evict (h : l.Proper) (kept : String) :
    (l.evict kept).toList = l.toList.filter fun y => ((l.evict kept).get? y.id).isSome := by
  rw [toList, entries_evict, toList, List.filter_map]
  refine congrArg _ (List.filter_congr fun e he => ?_)
  have mem : e.2 ∈ l.toList := List.mem_map_of_mem he
  have absent := h.get?_evict_eq_none mem kept
  rw [h.own e he] at absent
  rw [Function.comp_apply, h.own e he, Bool.eq_iff_iff, Option.isSome_iff_ne_none, ne_eq, absent]
  simp

theorem Proper.mem_toList_evict (h : l.Proper) :
    y ∈ (l.evict kept).toList ↔ y ∈ l.toList ∧ y ∉ l.lost (l.evict kept) := by
  rw [h.toList_evict, lost, List.mem_filter, List.mem_filter]
  refine and_congr_right fun mem => ?_
  rw [Option.isSome_iff_ne_none]
  simp [mem]

/-- What is given up stands in front of every finished record that is kept. -/
theorem Proper.lost_before (h : l.Proper) (hy : y ∈ l.lost (l.evict kept))
    (hz : z ∈ (l.evict kept).toList) (finished : z.status.finished = true) (other : z.id ≠ kept) :
    [y, z].Sublist l.toList := by
  obtain ⟨mem, stays⟩ := h.mem_toList_evict.mp hz
  rw [h.lost_evict] at hy stays
  have spendable : z ∈ l.finishedBut kept := by simp [finishedBut, mem, finished, other]
  have later : z ∈ (l.finishedBut kept).drop l.excess := by
    rw [← List.take_append_drop l.excess (l.finishedBut kept), List.mem_append] at spendable
    exact spendable.resolve_left stays
  have inOrder : [y, z].Sublist (l.finishedBut kept) := by
    rw [← List.take_append_drop l.excess (l.finishedBut kept)]
    exact (List.singleton_sublist.mpr hy).append (List.singleton_sublist.mpr later)
  exact inOrder.trans List.filter_sublist

/-- Above the limit every record is going on, but for the one that is kept. -/
theorem Proper.running_of_limit_lt (h : l.Proper) {m : Nat} (limited : l.limit = some m)
    (above : m < (l.evict kept).size) (hy : y ∈ (l.evict kept).toList) (other : y.id ≠ kept) :
    y.status = .running := by
  have sizes : (l.evict kept).size + (l.lost (l.evict kept)).length = l.size := by
    have kept_size : (l.evict kept).size = (l.evict kept).toList.length := by simp [size, toList]
    have whole_size : l.size = l.toList.length := by simp [size, toList]
    rw [kept_size, whole_size, h.toList_evict, lost, ← List.countP_eq_length_filter,
      ← List.countP_eq_length_filter,
      List.length_eq_countP_add_countP fun y => ((l.evict kept).get? y.id).isSome]
    exact congrArg _ (List.countP_congr fun y _ => by simp)
  rw [h.lost_evict, List.length_take] at sizes
  have beyond : l.excess = l.size - m := by rw [excess, limited]
  -- fewer records had ended than were too many, so all of these are gone
  have spent : (l.finishedBut kept).length ≤ l.excess := by omega
  obtain ⟨mem, stays⟩ := h.mem_toList_evict.mp hy
  rw [h.lost_evict, List.take_of_length_le spent] at stays
  cases status : y.status with
  | running => rfl
  | _ => exact absurd (by simp [finishedBut, mem, other, status, ExecutionStatus.finished]) stays

/-! ## Adding a record -/

/-- What a ledger keeps and gives up when a record is added to it. -/
structure Retains (l : Ledger) (x : Execution) (after : Ledger) : Prop where
  /-- A record under a new id comes last. -/
  appended : l.get? x.id = none -> (l.placed x).toList = l.toList ++ [x]
  /-- A record under an id that is there replaces the one that had it, in its place. -/
  replaced : l.get? x.id ≠ none ->
    (l.placed x).toList = l.toList.map fun y => if y.id = x.id then x else y
  /-- The record that was added is there. -/
  added : after.get? x.id = some x
  /-- Only finished records are given up, and never the one that was added. -/
  finished : ∀ y ∈ (l.placed x).lost after, y.status.finished = true ∧ y.id ≠ x.id
  /-- As many are given up as are too many, if so many have finished. -/
  count : ((l.placed x).lost after).length =
    min (l.placed x).excess ((l.placed x).finishedBut x.id).length
  /-- The ledger is within its limit, unless every other record is going on. -/
  bounded : ∀ m, l.limit = some m ->
    after.size ≤ m ∨ ∀ y ∈ after.toList, y.id ≠ x.id -> y.status = .running
  /-- The oldest finished records are given up first. -/
  oldest : ∀ y ∈ (l.placed x).lost after, ∀ z ∈ after.toList, z.status.finished = true ->
    z.id ≠ x.id -> [y, z].Sublist (l.placed x).toList
  /-- The records that are kept stay in their order. -/
  order : after.toList = (l.placed x).toList.filter fun y => (after.get? y.id).isSome
  /-- No id occurs twice. -/
  once : (after.toList.map Execution.id).Nodup
  /-- Without a limit nothing is given up. -/
  unlimited : l.limit = none -> after.toList = (l.placed x).toList

theorem Proper.retains (h : l.Proper) (x : Execution) : l.Retains x (l.add x) where
  appended new := toList_placed_of_new fun known => by
    obtain ⟨y, found⟩ := Table.mem_names_iff.mp known
    rw [get?, found] at new
    cases new
  replaced known := h.toList_placed_of_known
    (Table.mem_names_iff.mpr (Option.ne_none_iff_exists'.mp known))
  added := get?_add_self l x
  finished y hy := by
    rw [add_eq, (h.placed x).lost_evict] at hy
    have mem := (List.mem_filter.mp (List.mem_of_mem_take hy)).2
    simpa using mem
  count := by rw [add_eq, (h.placed x).lost_evict, List.length_take]
  bounded m limited := by
    rcases Nat.lt_or_ge m (l.add x).size with above | within
    · exact .inr fun y hy other => (h.placed x).running_of_limit_lt limited above hy other
    · exact .inl within
  oldest y hy z hz finished other := (h.placed x).lost_before hy hz finished other
  order := (h.placed x).toList_evict x.id
  once := by
    rw [(h.add x).ids]
    exact (h.add x).once
  unlimited none := by
    have excess_zero : (l.placed x).excess = 0 := by
      have : (l.placed x).limit = Option.none := none
      rw [excess, this]
    have nothing : (l.placed x).lost (l.add x) = [] := by
      rw [add_eq, (h.placed x).lost_evict, excess_zero, List.take_zero]
    rw [add_eq, (h.placed x).toList_evict, List.filter_eq_self]
    intro y hy
    have stays := List.filter_eq_nil_iff.mp nothing y hy
    rw [← add_eq, Option.isSome_iff_ne_none]
    simpa using stays

end Ledger

/-! ## Records that are shared -/

/-- The records that were made, by number, and a ledger of some of them. -/
structure Desk where
  records : Nat -> Execution
  /-- The record that was last added under an id. -/
  latest : String -> Option Nat
  ledger : Ledger

/-- What is done with a record. -/
inductive RecordAction where
  | add (k : Nat)
  | complete (k : Nat) (now : DateTime) (outputs : Value)
  | fail (k : Nat) (now : DateTime) (note : FailureNote)

namespace Desk

/-- The ledger is new, and the records are as they were made. -/
def start (limit : Option Nat) (records : Nat -> Execution) : Desk :=
  ⟨records, fun _ => none, ⟨limit, []⟩⟩

/-- A record becomes another one of its id; the ledger shows it when it holds this very record. -/
def become (d : Desk) (k : Nat) (y : Execution) : Desk :=
  { d with
    records := fun j => if j = k then y else d.records j
    ledger := if d.latest y.id = some k then d.ledger.update y else d.ledger }

/-- Do something with a record. -/
def step (d : Desk) : RecordAction -> Desk
  | .add k =>
      { d with
        latest := fun id => if id = (d.records k).id then some k else d.latest id
        ledger := d.ledger.add (d.records k) }
  | .complete k now outputs => d.become k ((d.records k).complete now outputs)
  | .fail k now note => d.become k ((d.records k).fail now note)

/-- Do one thing after another. -/
def after (d : Desk) (actions : List RecordAction) : Desk :=
  actions.foldl step d

/-- The ledger has each record under its id, as the record is now. -/
structure Sound (d : Desk) : Prop where
  proper : d.ledger.Proper
  current : ∀ id y, d.ledger.get? id = some y -> ∃ k, d.latest id = some k ∧ d.records k = y

theorem sound_start (limit : Option Nat) (records : Nat -> Execution) :
    (start limit records).Sound :=
  ⟨.empty limit, fun _ _ found => by cases found⟩

/-- What stands under an id has this id. -/
theorem Sound.id_eq {d : Desk} (h : d.Sound) {id : String} {y : Execution}
    (found : d.ledger.get? id = some y) : y.id = id :=
  h.proper.own _ (Table.mem_of_get? found)

theorem Sound.become {d : Desk} (h : d.Sound) {k : Nat} {y : Execution}
    (same : y.id = (d.records k).id) : (d.become k y).Sound where
  proper := by
    simp only [Desk.become]
    split
    · exact h.proper.update y
    · exact h.proper
  current id z found := by
    simp only [Desk.become] at found ⊢
    by_cases held : d.latest y.id = some k
    · rw [if_pos held] at found
      by_cases own : y.id = id
      · subst own
        rw [Ledger.get?_update_self, Option.map_eq_some_iff] at found
        obtain ⟨_, _, rfl⟩ := found
        exact ⟨k, held, if_pos rfl⟩
      · rw [Ledger.get?_update_of_ne _ _ own] at found
        obtain ⟨j, hj, rfl⟩ := h.current id z found
        refine ⟨j, hj, if_neg ?_⟩
        rintro rfl
        exact own (same.trans (h.id_eq found))
    · rw [if_neg held] at found
      obtain ⟨j, hj, rfl⟩ := h.current id z found
      refine ⟨j, hj, if_neg ?_⟩
      rintro rfl
      rw [same, h.id_eq found] at held
      exact held hj

theorem Sound.step {d : Desk} (h : d.Sound) (a : RecordAction) : (d.step a).Sound := by
  cases a with
  | add k =>
      refine ⟨h.proper.add _, fun id y found => ?_⟩
      simp only [Desk.step] at found ⊢
      by_cases own : (d.records k).id = id
      · subst own
        rw [Ledger.get?_add_self] at found
        cases found
        exact ⟨k, if_pos rfl, rfl⟩
      · rw [if_neg (Ne.symm own)]
        rcases d.ledger.get?_add_of_ne (d.records k) own with stays | gone
        · exact h.current id y (stays ▸ found)
        · rw [gone] at found
          cases found
  | complete k now outputs => exact h.become rfl
  | fail k now note => exact h.become rfl

theorem Sound.after {d : Desk} (h : d.Sound) (actions : List RecordAction) :
    (d.after actions).Sound := by
  induction actions generalizing d with
  | nil => exact h
  | cons a rest ih => exact ih (h.step a)

/-- Ending a record leaves the ids of the ledger as they are. -/
theorem ids_become (d : Desk) (k : Nat) (y : Execution) :
    (d.become k y).ledger.entries.names = d.ledger.entries.names := by
  simp only [become]
  split
  · exact Table.names_change ..
  · rfl

/--
However records were added and ended before, a record that is added is there afterwards,
and what the ledger gives up for it are the oldest records that have ended, as many as
are too many.  Records that end leave the ledger as it is, but for what it shows of them.
-/
theorem add_retains (limit : Option Nat) (records : Nat -> Execution)
    (actions : List RecordAction) (k : Nat) :
    let desk := (start limit records).after actions
    desk.ledger.Retains (desk.records k) (desk.step (.add k)).ledger ∧
      (∀ y ∈ (desk.step (.add k)).ledger.toList, ∃ j, desk.records j = y) ∧
      (∀ now outputs, (desk.step (.complete k now outputs)).ledger.entries.names =
        desk.ledger.entries.names) ∧
      (∀ now note, (desk.step (.fail k now note)).ledger.entries.names =
        desk.ledger.entries.names) := by
  intro desk
  have sound : desk.Sound := (sound_start limit records).after actions
  refine ⟨sound.proper.retains _, fun y hy => ?_, fun now outputs => ?_, fun now note => ?_⟩
  · have added := sound.step (.add k)
    obtain ⟨j, -, shown⟩ := added.current y.id y (added.proper.get?_eq_some_iff.mpr hy)
    exact ⟨j, shown⟩
  · exact ids_become desk k ((desk.records k).complete now outputs)
  · exact ids_become desk k ((desk.records k).fail now note)

end Desk

end Workflow
