import Workflow.Proofs.Template.Names
import Workflow.Template.Loop

/-!
# Memories that agree on names

Two memories agree on a set of names when they hold the same under each of them and in
all cells.  A computation is blind to the other names when from such memories it gives
the same result, or the same fault, and leaves memories that agree again.
-/

namespace Workflow

namespace Template

variable {P : String -> Prop} {α β : Type}

/-- Memories that agree on the names of a set, and keep no other names in their cells. -/
structure Memory.Alike (P : String -> Prop) (m n : Memory) : Prop where
  cells : m.cells = n.cells
  objects : m.objects = n.objects
  size : m.scopes.size = n.scopes.size
  bindings : ∀ (place : Nat) (id : String), P id ->
    (m.scopes[place]?).bind (List.lookup id) = (n.scopes[place]?).bind (List.lookup id)
  within : ∀ (place : Nat) (c : Cell), m.cells[place]? = some c -> c.Within P

/-- Ends that differ at most in names outside of a set. -/
inductive EndAlike (P : String -> Prop) :
    EStateM.Result Fault Memory α -> EStateM.Result Fault Memory α -> Prop where
  | ok (a : α) {m n : Memory} : m.Alike P n -> EndAlike P (.ok a m) (.ok a n)
  | error (f : Fault) {m n : Memory} : m.Alike P n -> EndAlike P (.error f m) (.error f n)

/-- A computation that sees no names but those of a set. -/
def Blind (P : String -> Prop) (x : Render α) : Prop :=
  ∀ m n, m.Alike P n -> EndAlike P (x m) (x n)

namespace Blind

theorem pure (a : α) : Blind P (pure a : Render α) :=
  fun _ _ h => .ok a h

theorem throw (f : Fault) : Blind P (throw f : Render α) :=
  fun _ _ h => .error f h

theorem bind {x : Render α} {k : α -> Render β} (hx : Blind P x) (hk : ∀ a, Blind P (k a)) :
    Blind P (x >>= k) := by
  intro m n h
  have first := hx m n h
  simp only [Bind.bind, EStateM.bind]
  generalize x m = r at first
  generalize x n = t at first
  cases first with
  | ok a h => exact hk a _ _ h
  | error f h => exact .error f h

theorem map {x : Render α} (hx : Blind P x) (f : α -> β) : Blind P (do Pure.pure (f (<- x))) :=
  hx.bind fun a => .pure (f a)

/-- What is read of a memory is read alike, and what its cells hold has no other names. -/
theorem read {k : Memory -> Render α} (same : ∀ m n, m.Alike P n -> k m = k n)
    (hk : ∀ m : Memory, (∀ (place : Nat) (c : Cell), m.cells[place]? = some c -> c.Within P) ->
      Blind P (k m)) :
    Blind P (get >>= k) := by
  intro m n h
  have hr := hk m h.within m n h
  rw [same m n h] at hr
  have hs : (get >>= k) m = k n m := by rw [← same m n h]; rfl
  rw [hs]
  exact hr

/-- A change of the memory that keeps memories alike. -/
theorem modify {f : Memory -> Memory} (hf : ∀ m n, m.Alike P n -> (f m).Alike P (f n)) :
    Blind P (modify f : Render Unit) :=
  fun m n h => .ok () (hf m n h)

theorem mapM {γ : Type} {f : γ -> Render β} (hf : ∀ a, Blind P (f a)) (xs : List γ) :
    Blind P (xs.mapM f) := by
  induction xs with
  | nil => exact .pure []
  | cons x rest ih =>
      rw [List.mapM_cons]
      exact (hf x).bind fun _ => ih.map _

theorem forM {γ : Type} {f : γ -> Render Unit} (xs : List γ) (hf : ∀ x ∈ xs, Blind P (f x)) :
    Blind P (xs.forM f) := by
  induction xs with
  | nil => exact .pure ()
  | cons x rest ih =>
      exact (hf x List.mem_cons_self).bind fun _ =>
        ih fun y hy => hf y (List.mem_cons_of_mem x hy)

end Blind

/-! ## Values -/

theorem blind_lift (r : Outcome α) : Blind P (lift r) := by
  cases r with
  | ok a => exact .pure a
  | error f => exact .throw f

theorem blind_perform (action : Action α) : Blind P (perform action) := by
  intro m n h
  unfold perform
  rw [← h.objects]
  have put (objects : Objects) :
      Memory.Alike P { m with objects } { n with objects } :=
    ⟨h.cells, rfl, h.size, h.bindings, h.within⟩
  cases action m.objects with
  | ok x objects => exact .ok x (put objects)
  | error f objects => exact .error f (put objects)

theorem blind_current (v : Value) : Blind P (current v) :=
  blind_perform _

theorem blind_look (v : Value) : Blind P (look v) :=
  blind_perform _

theorem blind_make (r : Outcome Value) : Blind P (make r) :=
  blind_perform _

theorem blind_currentArguments (a : Value.Arguments) : Blind P (currentArguments a) :=
  (Blind.mapM blind_current _).bind fun _ =>
    (Blind.mapM (fun _ => (blind_current _).map _) _).map _

/-! ## Scopes and cells -/

theorem lookup_setName (bs : List (String × Value)) (id other : String) (v : Value) :
    (setName bs id v).lookup other = if other = id then some v else bs.lookup other := by
  induction bs with
  | nil => by_cases h : other = id <;> simp [setName, h]
  | cons b rest ih =>
      obtain ⟨name, old⟩ := b
      by_cases hn : name = id
      · subst hn
        by_cases h : other = name
        · simp [setName, h]
        · simp [setName, List.lookup_cons, beq_eq_false_iff_ne.mpr h, h]
      · by_cases h : other = name
        · subst h
          simp [setName, hn]
        · simp [setName, hn, List.lookup_cons, beq_eq_false_iff_ne.mpr h, ih]

/-- Assigning to a name in one scope keeps memories alike. -/
theorem blind_assignIn (place : Nat) (id : String) (v : Value) : Blind P (assignIn place id v) := by
  refine Blind.modify fun m n h => ⟨h.cells, h.objects, ?_, ?_, h.within⟩
  · simpa only [Array.size_modify] using h.size
  · intro at' other hother
    have before := h.bindings at' other hother
    simp only [Array.getElem?_modify]
    split
    · next here =>
        subst here
        cases hm : m.scopes[place]? with
        | none =>
            have hn : n.scopes[place]? = none := by
              rw [Array.getElem?_eq_none_iff] at hm ⊢
              rwa [← h.size]
            simp only [hn, Option.map_none, Option.bind_none]
        | some bs =>
            obtain ⟨hlt, -⟩ := Array.getElem?_eq_some_iff.mp hm
            obtain ⟨cs, hn⟩ : ∃ cs, n.scopes[place]? = some cs :=
              ⟨_, Array.getElem?_eq_getElem (h.size ▸ hlt)⟩
            rw [hm, hn] at before
            simp only [Option.bind_some] at before
            simp only [hn, Option.map_some, Option.bind_some, lookup_setName, before]
    · exact before

theorem blind_assign (s : Surroundings) (id : String) (v : Value) : Blind P (s.assign id v) := by
  unfold Surroundings.assign
  split
  · exact blind_assignIn _ id v
  · exact .pure ()

theorem blind_newScope (bindings : List (String × Value)) : Blind P (newScope bindings) := by
  intro m n h
  have same : newScope bindings m =
      .ok m.scopes.size { m with scopes := m.scopes.push bindings } := rfl
  have same' : newScope bindings n =
      .ok n.scopes.size { n with scopes := n.scopes.push bindings } := rfl
  rw [same, same', ← h.size]
  refine .ok _ ⟨h.cells, h.objects, ?_, ?_, h.within⟩
  · simp only [Array.size_push, h.size]
  · intro place id hid
    simp only [Array.getElem?_push, h.size]
    split
    · rfl
    · exact h.bindings place id hid

/-- What is done in a new innermost scope is done among the same blocks. -/
theorem blind_inner {s : Surroundings} (hs : s.Within P) (bindings : List (String × Value))
    {k : Surroundings -> Render α} (hk : ∀ t : Surroundings, t.Within P -> Blind P (k t)) :
    Blind P (s.inner bindings >>= k) := by
  have one : (s.inner bindings >>= k) =
      (newScope bindings >>= fun place => k { s with scopes := place :: s.scopes }) := by
    simp only [Surroundings.inner, bind_assoc, pure_bind]
  rw [one]
  exact (blind_newScope bindings).bind fun place => hk _ hs

theorem blind_putCell (place : Nat) {c : Cell} (hc : c.Within P) : Blind P (putCell place c) := by
  refine Blind.modify fun m n h => ⟨?_, h.objects, h.size, h.bindings, ?_⟩
  · simp only [h.cells]
  · intro at' d hd
    rw [Array.getElem?_setIfInBounds] at hd
    split at hd
    · split at hd
      · cases hd
        exact hc
      · cases hd
    · exact h.within at' d hd

theorem blind_newCell {c : Cell} (hc : c.Within P) : Blind P (newCell c) := by
  intro m n h
  have same : (newCell c) m = .ok m.cells.size { m with cells := m.cells.push c } := rfl
  have same' : (newCell c) n = .ok n.cells.size { n with cells := n.cells.push c } := rfl
  rw [same, same', ← h.cells]
  refine .ok _ ⟨rfl, h.objects, h.size, h.bindings, ?_⟩
  intro place d hd
  rw [Array.getElem?_push] at hd
  split at hd
  · cases hd
    exact hc
  · exact h.within place d hd

theorem findName?_alike {m n : Memory} (h : m.Alike P n) {id : String} (hid : P id)
    (places : List Nat) : findName? m id places = findName? n id places := by
  induction places with
  | nil => rfl
  | cons place rest ih => simp only [findName?, h.bindings place id hid, ih]

theorem blind_lookup (s : Surroundings) {id : String} (hid : P id) : Blind P (s.lookup id) := by
  refine Blind.read (fun m n h => ?_) fun m _ => ?_
  · simp only [findName?_alike h hid]
  · split
    · exact .pure _
    · split
      · exact .pure _
      · split
        · exact .pure _
        · split <;> exact .pure _

theorem blind_newStream (kind : String) {maker : Maker} (hm : maker.Within P) (stage : Stage) :
    Blind P (newStream kind maker stage) :=
  (blind_newCell (.stream hm)).map _

/-! ## Parts of changeable values -/

theorem blind_plainPart (v : Value) (name : String) : Blind P (plainPart v name) := by
  unfold plainPart
  split
  · refine Blind.read (fun m n h => by simp only [h.cells]) fun m _ => ?_
    split
    · split
      · exact .pure _
      · exact .pure _
    · exact .pure _
    · split
      · exact .pure _
      · split <;> exact .pure _
    · exact .pure _
  · exact (blind_look _).bind fun _ => blind_make _

theorem blind_plainPrinted (escaping : Bool) (v : Value) : Blind P (plainPrinted escaping v) := by
  unfold plainPrinted
  split
  · refine Blind.read (fun m n h => by simp only [h.cells]) fun m _ => ?_
    split
    · split <;> exact .pure _
    · exact (blind_current _).map _
    · exact .pure _
  · exact .pure _
  · exact (blind_current _).bind fun _ => blind_lift _

end Template

end Workflow
