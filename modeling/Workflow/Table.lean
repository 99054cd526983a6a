/-!
# Tables

A table holds one entry under each of its names, in the order in which the names first
came in.  An entry that replaces another takes its place.
-/

namespace Workflow

/-- Entries under names. -/
abbrev Table (α : Type u) := List (String × α)

namespace Table

variable {α : Type u}

/-- The names of a table in order. -/
def names (t : Table α) : List String :=
  t.map (·.1)

/-- The entry under a name. -/
def get? : Table α -> String -> Option α
  | [], _ => none
  | (n, a) :: rest, name => if n = name then some a else get? rest name

/-- Whether there is an entry under a name. -/
def has (t : Table α) (name : String) : Bool :=
  (t.get? name).isSome

/-- Put an entry under a name, in the place of the one it replaces or at the end. -/
def put : Table α -> String -> α -> Table α
  | [], name, a => [(name, a)]
  | (n, b) :: rest, name, a => if n = name then (n, a) :: rest else (n, b) :: put rest name a

/-- Remove the entry under a name. -/
def erase (t : Table α) (name : String) : Table α :=
  t.filter fun e => e.1 != name

/-- Change the entry under a name, if there is one. -/
def change : Table α -> String -> (α -> α) -> Table α
  | [], _, _ => []
  | (n, a) :: rest, name, f => if n = name then (n, f a) :: rest else (n, a) :: change rest name f

/-- The table of some entries, of which later ones replace earlier ones of their name. -/
def ofEntries (entries : List (String × α)) : Table α :=
  entries.foldl (fun t e => t.put e.1 e.2) []

theorem mem_of_get? {t : Table α} {name : String} {a : α} (h : t.get? name = some a) :
    (name, a) ∈ t := by
  induction t with
  | nil => cases h
  | cons e rest ih =>
      obtain ⟨n, b⟩ := e
      unfold get? at h
      split at h
      · next same =>
          cases h
          rw [same]
          exact List.mem_cons_self
      · exact List.mem_cons_of_mem _ (ih h)

theorem get?_put_self (t : Table α) (name : String) (a : α) : (t.put name a).get? name = some a := by
  induction t with
  | nil => simp [put, get?]
  | cons e rest ih =>
      by_cases h : e.1 = name
      · simp [put, get?, h]
      · simp [put, get?, h, ih]

theorem get?_put_of_ne (t : Table α) {name other : String} (a : α) (h : name ≠ other) :
    (t.put name a).get? other = t.get? other := by
  induction t with
  | nil => simp [put, get?, h]
  | cons e rest ih =>
      by_cases hn : e.1 = name
      · have : e.1 ≠ other := fun k => h (hn.symm.trans k)
        simp [put, get?, hn, h]
      · simp only [put, get?, hn, if_false, ih]

theorem get?_change_self (t : Table α) (name : String) (f : α -> α) :
    (t.change name f).get? name = (t.get? name).map f := by
  induction t with
  | nil => simp [change, get?]
  | cons e rest ih =>
      by_cases h : e.1 = name
      · simp [change, get?, h]
      · simp [change, get?, h, ih]

theorem get?_change_of_ne (t : Table α) {name other : String} (f : α -> α) (h : name ≠ other) :
    (t.change name f).get? other = t.get? other := by
  induction t with
  | nil => simp [change]
  | cons e rest ih =>
      by_cases hn : e.1 = name
      · have : e.1 ≠ other := fun k => h (hn.symm.trans k)
        simp [change, get?, hn, h]
      · simp only [change, get?, hn, if_false, ih]

theorem get?_filter (t : Table α) (p : String -> Bool) (name : String) :
    get? (t.filter fun e => p e.1) name = if p name then t.get? name else none := by
  induction t with
  | nil => simp [get?]
  | cons e rest ih =>
      by_cases hn : e.1 = name
      · subst hn
        by_cases hp : p e.1 <;> simp [get?, hp, ih]
      · by_cases hp : p e.1 <;> simp [get?, hp, hn, ih]

theorem has_eq_false_iff (t : Table α) (name : String) : t.has name = false ↔ name ∉ t.names := by
  induction t with
  | nil => simp [has, get?, names]
  | cons e rest ih =>
      have ih : get? rest name = none ↔ name ∉ rest.map (·.1) := by simpa [has, names] using ih
      by_cases hn : e.1 = name
      · simp [has, get?, names, hn]
      · simp [has, get?, names, hn, ih, Ne.symm hn]

/-! ## Names -/

theorem mem_names_iff {t : Table α} {name : String} :
    name ∈ t.names ↔ ∃ a, t.get? name = some a := by
  have absent := has_eq_false_iff t name
  unfold has at absent
  cases h : t.get? name with
  | none =>
      rw [h] at absent
      simpa using absent.1 rfl
  | some a =>
      rw [h] at absent
      simpa using absent

/-- What is put under a new name comes last. -/
theorem put_of_not_mem {t : Table α} {name : String} (h : name ∉ t.names) (a : α) :
    t.put name a = t ++ [(name, a)] := by
  induction t with
  | nil => rfl
  | cons e rest ih =>
      simp only [names, List.map_cons, List.mem_cons, not_or] at h
      simp only [put, Ne.symm h.1, if_false, ih h.2, List.cons_append]

/-- What is put under a name that is there takes the place of what was there. -/
theorem names_put_of_mem {t : Table α} {name : String} (h : name ∈ t.names) (a : α) :
    (t.put name a).names = t.names := by
  induction t with
  | nil => cases h
  | cons e rest ih =>
      by_cases hn : e.1 = name
      · simp [put, names, hn]
      · have later : name ∈ names rest := by
          simpa [names, Ne.symm hn] using h
        have ih := ih later
        simp only [names] at ih ⊢
        simp only [put, hn, if_false, List.map_cons, ih]

theorem names_put_of_not_mem {t : Table α} {name : String} (h : name ∉ t.names) (a : α) :
    (t.put name a).names = t.names ++ [name] := by
  simp [put_of_not_mem h, names]

theorem nodup_names_put {t : Table α} (h : t.names.Nodup) (name : String) (a : α) :
    (t.put name a).names.Nodup := by
  by_cases known : name ∈ t.names
  · rw [names_put_of_mem known]
    exact h
  · rw [names_put_of_not_mem known]
    refine List.nodup_append.mpr ⟨h, by simp, ?_⟩
    intro x hx y hy same
    rw [List.mem_singleton.mp hy] at same
    exact known (same ▸ hx)

theorem names_change (t : Table α) (name : String) (f : α -> α) :
    (t.change name f).names = t.names := by
  induction t with
  | nil => rfl
  | cons e rest ih =>
      simp only [names] at ih ⊢
      by_cases hn : e.1 = name
      · simp [change, hn]
      · simp only [change, hn, if_false, List.map_cons, ih]

theorem names_erase (t : Table α) (name : String) :
    (t.erase name).names = t.names.filter (· != name) := by
  simp [erase, names, List.filter_map, Function.comp_def]

theorem get?_erase_self (t : Table α) (name : String) : (t.erase name).get? name = none := by
  unfold erase
  rw [get?_filter t (· != name)]
  simp

theorem get?_erase_of_ne (t : Table α) {name other : String} (h : name ≠ other) :
    (t.erase name).get? other = t.get? other := by
  unfold erase
  rw [get?_filter t (· != name)]
  simp [Ne.symm h]

/-- Where no name occurs twice, the entry under a name is the one with the name. -/
theorem get?_eq_some_iff {t : Table α} (h : t.names.Nodup) {name : String} {a : α} :
    t.get? name = some a ↔ (name, a) ∈ t := by
  refine ⟨mem_of_get?, fun mem => ?_⟩
  induction t with
  | nil => cases mem
  | cons e rest ih =>
      obtain ⟨n, b⟩ := e
      simp only [names, List.map_cons, List.nodup_cons] at h
      rcases List.mem_cons.mp mem with same | later
      · cases same
        simp [get?]
      · have other : n ≠ name := by
          rintro rfl
          exact h.1 (List.mem_map_of_mem later)
        simpa [get?, other] using ih h.2 later

theorem nodup_names_ofEntries (entries : List (String × α)) : (ofEntries entries).names.Nodup := by
  have kept (t : Table α) (h : t.names.Nodup) :
      (entries.foldl (fun t e => t.put e.1 e.2) t).names.Nodup := by
    induction entries generalizing t with
    | nil => exact h
    | cons e rest ih => exact ih _ (nodup_names_put h e.1 e.2)
  exact kept [] List.nodup_nil

theorem mem_of_mem_put {t : Table α} {name : String} {a : α} {e : String × α}
    (h : e ∈ t.put name a) : e = (name, a) ∨ e ∈ t := by
  induction t with
  | nil => exact .inl (List.mem_singleton.mp h)
  | cons f rest ih =>
      unfold put at h
      split at h
      · next same =>
          rcases List.mem_cons.mp h with replaced | later
          · exact .inl (same ▸ replaced)
          · exact .inr (List.mem_cons_of_mem _ later)
      · rcases List.mem_cons.mp h with first | later
        · exact .inr (first ▸ List.mem_cons_self)
        · exact (ih later).imp id (List.mem_cons_of_mem _)

theorem mem_of_mem_ofEntries {entries : List (String × α)} {e : String × α}
    (h : e ∈ ofEntries entries) : e ∈ entries := by
  have from_either (added : List (String × α)) (t : Table α)
      (h : e ∈ added.foldl (fun t e => t.put e.1 e.2) t) : e ∈ t ∨ e ∈ added := by
    induction added generalizing t with
    | nil => exact .inl h
    | cons f rest ih =>
        rcases ih _ h with before | later
        · exact (mem_of_mem_put before).elim (fun same => .inr (same ▸ List.mem_cons_self)) .inl
        · exact .inr (List.mem_cons_of_mem _ later)
  exact (from_either entries [] h).resolve_left (List.not_mem_nil)

/-- A table is the table of its entries. -/
theorem ofEntries_of_nodup {t : Table α} (h : t.names.Nodup) : ofEntries t = t := by
  have added (front back : Table α) (h : (front ++ back).names.Nodup) :
      back.foldl (fun t e => t.put e.1 e.2) front = front ++ back := by
    induction back generalizing front with
    | nil => exact (List.append_nil front).symm
    | cons e rest ih =>
        have new : e.1 ∉ front.names := by
          rw [names, List.map_append, List.nodup_append] at h
          exact fun mem => h.2.2 _ mem _ (by simp) rfl
        have whole : front ++ e :: rest = (front ++ [e]) ++ rest := by simp
        rw [List.foldl_cons, put_of_not_mem new, whole]
        exact ih _ (whole ▸ h)
  exact added [] t h

end Table

end Workflow
