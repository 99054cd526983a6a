import Workflow.Execution
import Workflow.Fault
import Workflow.Table

/-!
# The ledger of executions

The ledger keeps the records of executions in the order in which they were added.  When
it holds more than its limit, the oldest records of finished executions are given up
first.  Records of running executions are kept, and so is the one just added.
-/

namespace Workflow

/-- Records of executions by id. -/
structure Ledger where
  /-- How many records are kept; `none` when all are. -/
  limit : Option Nat
  entries : Table Execution

namespace Ledger

/-- A ledger without records. -/
def ofLimit (limit : Option Int) : Outcome Ledger :=
  match limit with
  | none => .ok ⟨none, []⟩
  | some n =>
      if n < 1 then .error (.badValue "max_entries must be at least 1")
      else .ok ⟨some n.toNat, []⟩

/-- The number of records. -/
def size (l : Ledger) : Nat :=
  l.entries.length

/-- The record of an execution. -/
def get? (l : Ledger) (id : String) : Option Execution :=
  l.entries.get? id

/-- The records, the oldest first. -/
def toList (l : Ledger) : List Execution :=
  l.entries.map (·.2)

/-- By how many records the ledger is above its limit. -/
def excess (l : Ledger) : Nat :=
  match l.limit with
  | none => 0
  | some n => l.size - n

/-- The ids of the finished executions other than one, the oldest first. -/
def evictable (l : Ledger) (kept : String) : List String :=
  (l.entries.filter fun (id, x) => x.status.finished && id != kept).map (·.1)

/-- The ledger with the oldest finished records given up, as many as are too many. -/
def evict (l : Ledger) (kept : String) : Ledger :=
  let gone := (l.evictable kept).take l.excess
  { l with entries := l.entries.filter fun (id, _) => !gone.contains id }

/-- Add a record, in the place of the one that had its id. -/
def add (l : Ledger) (x : Execution) : Ledger :=
  { l with entries := l.entries.put x.id x }.evict x.id

/-- Bring the record of an execution up to date, if it is kept. -/
def update (l : Ledger) (x : Execution) : Ledger :=
  { l with entries := l.entries.change x.id fun _ => x }

/-! ## What is kept -/

/-- The record kept stays whatever its status is. -/
theorem get?_evict_self (l : Ledger) (kept : String) : (l.evict kept).get? kept = l.get? kept := by
  have spared : kept ∉ (l.evictable kept).take l.excess := by
    intro h
    have := List.mem_of_mem_take h
    simp [evictable] at this
  simp only [evict, get?]
  rw [Table.get?_filter _ fun id => !((l.evictable kept).take l.excess).contains id]
  simp [spared]

/-- Any other record stays as it is, or is given up. -/
theorem get?_evict (l : Ledger) (kept id : String) :
    (l.evict kept).get? id = l.get? id ∨ (l.evict kept).get? id = none := by
  simp only [evict, get?]
  rw [Table.get?_filter _ fun id => !((l.evictable kept).take l.excess).contains id]
  split
  · exact .inl rfl
  · exact .inr rfl

theorem get?_add_self (l : Ledger) (x : Execution) : (l.add x).get? x.id = some x := by
  rw [add, get?_evict_self]
  exact Table.get?_put_self l.entries x.id x

theorem get?_add_of_ne (l : Ledger) (x : Execution) {id : String} (h : x.id ≠ id) :
    (l.add x).get? id = l.get? id ∨ (l.add x).get? id = none := by
  have same : Ledger.get? ⟨l.limit, l.entries.put x.id x⟩ id = l.get? id :=
    Table.get?_put_of_ne l.entries x h
  rw [← same]
  exact get?_evict ⟨l.limit, l.entries.put x.id x⟩ x.id id

theorem get?_update_self (l : Ledger) (x : Execution) :
    (l.update x).get? x.id = (l.get? x.id).map fun _ => x :=
  Table.get?_change_self l.entries x.id fun _ => x

theorem get?_update_of_ne (l : Ledger) (x : Execution) {id : String} (h : x.id ≠ id) :
    (l.update x).get? id = l.get? id :=
  Table.get?_change_of_ne l.entries (fun _ => x) h

end Ledger

end Workflow
