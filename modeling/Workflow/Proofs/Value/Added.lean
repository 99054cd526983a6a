import Workflow.Value.Function

/-!
# Values that a caller added

The values that a caller adds to an execution have marks of their own, and how many of
these were given is nothing that an operation on values looks at.  So what it does is the
same, however many there are, and it leaves their number alone.
-/

namespace Workflow

/-! ## Computations that do not see a change -/

namespace Effect

variable {ε σ α β : Type} {T : σ -> σ}

/-- What a computation comes to, with its state changed. -/
def changed (T : σ -> σ) : EStateM.Result ε σ α -> EStateM.Result ε σ α
  | .ok a s => .ok a (T s)
  | .error e s => .error e (T s)

/-- One computation does in a changed state what the other one does in the state itself. -/
def Mirrors (T : σ -> σ) (m n : EStateM ε σ α) : Prop :=
  ∀ s, n (T s) = changed T (m s)

/-- A computation does not see a change of its state, and leaves it as it is. -/
abbrev Blind (T : σ -> σ) (m : EStateM ε σ α) : Prop :=
  Mirrors T m m

theorem blind_pure (a : α) : Blind T (pure a : EStateM ε σ α) :=
  fun _ => rfl

theorem blind_throw (e : ε) : Blind T (throw e : EStateM ε σ α) :=
  fun _ => rfl

theorem Mirrors.bind {m n : EStateM ε σ α} {k l : α -> EStateM ε σ β} (hm : Mirrors T m n)
    (hk : ∀ a, Mirrors T (k a) (l a)) : Mirrors T (m >>= k) (n >>= l) := by
  intro s
  simp only [Bind.bind, EStateM.bind, hm s]
  cases m s with
  | ok a t => exact hk a t
  | error e t => rfl

theorem Mirrors.map {m n : EStateM ε σ α} (hm : Mirrors T m n) (f : α -> β) :
    Mirrors T (do pure (f (<- m))) (do pure (f (<- n))) :=
  hm.bind fun a => blind_pure (f a)

/-- What is done with the state may be told the change, as long as it then does the same. -/
theorem mirrors_get {k l : σ -> EStateM ε σ β} (h : ∀ s, Mirrors T (k s) (l (T s))) :
    Mirrors T (get >>= k) (get >>= l) :=
  fun s => h s s

theorem blind_modify {f : σ -> σ} (h : ∀ s, f (T s) = T (f s)) :
    Blind T (modify f : EStateM ε σ Unit) :=
  fun s => congrArg (EStateM.Result.ok ()) (h s)

theorem blind_mapM {f : β -> EStateM ε σ α} (h : ∀ x, Blind T (f x)) (xs : List β) :
    Blind T (xs.mapM f) := by
  induction xs with
  | nil =>
      rw [List.mapM_nil]
      exact blind_pure []
  | cons x rest ih =>
      rw [List.mapM_cons]
      exact (h x).bind fun y => ih.bind fun ys => blind_pure (y :: ys)

theorem blind_foldlM {f : α -> β -> EStateM ε σ α} (h : ∀ a x, Blind T (f a x)) (a : α)
    (xs : List β) : Blind T (xs.foldlM f a) := by
  induction xs generalizing a with
  | nil => exact blind_pure a
  | cons x rest ih => exact (h a x).bind ih

end Effect

open Effect

namespace Objects

/-- The same values, after so many marks were given to values that a caller added. -/
def withAdded (nextAdded : Nat) (o : Objects) : Objects :=
  { o with nextAdded }

variable (n : Nat) (o : Objects)

@[simp] theorem refresh_withAdded (v : Value) : (o.withAdded n).refresh v = o.refresh v := by
  have same : (o.withAdded n).changes = o.changes := rfl
  exact refresh_of_same_changes same v

@[simp] theorem look_withAdded (v : Value) : (o.withAdded n).look v = o.look v := by
  cases v <;> rfl

theorem adoptParts_withAdded (v : Value) :
    (o.withAdded n).adoptParts v = ((o.adoptParts v).1, (o.adoptParts v).2.withAdded n) := by
  cases v <;> rfl

end Objects

/-! ## Actions -/

namespace Action

variable {α : Type} {n : Nat}

/-- An action does not look at how many values a caller added. -/
abbrev Unadded (n : Nat) (action : Action α) : Prop :=
  Blind (Objects.withAdded n) action

theorem unadded_of (r : Outcome α) : Unadded n (Action.of r) := by
  cases r with
  | ok x => exact blind_pure x
  | error f => exact blind_throw f

theorem unadded_current (v : Value) : Unadded n (current v) :=
  mirrors_get fun o => by
    rw [Objects.refresh_withAdded]
    exact blind_pure _

theorem unadded_look (v : Value) : Unadded n (look v) :=
  mirrors_get fun o => by
    rw [Objects.look_withAdded]
    exact blind_pure _

theorem unadded_own (v : Value) : Unadded n (own v) :=
  fun _ => rfl

theorem unadded_make (r : Outcome Value) : Unadded n (make r) :=
  (unadded_of r).bind unadded_own

theorem unadded_change (owner content : Value) : Unadded n (change owner content) := by
  unfold change
  split
  · exact blind_modify fun _ => rfl
  · exact blind_pure ()

end Action

/-! ## Functions and methods -/

namespace Value

open Workflow.Action

variable {n : Nat} {apply : Value -> Value -> Action Value}

section Apply

variable (happly : ∀ f x, Unadded n (apply f x))
include happly

theorem unadded_keyOf (a : Arguments) (v : Value) : Unadded n (keyOf apply a v) := by
  unfold keyOf
  split
  · exact blind_pure v
  · exact blind_pure v
  · exact happly _ v

omit happly in
theorem unadded_extremeItem (r : Relation) {key : Value -> Action Value}
    (hkey : ∀ v, Unadded n (key v)) (xs : List Value) : Unadded n (extremeItem r key xs) := by
  unfold extremeItem
  cases xs with
  | nil => exact blind_pure none
  | cons x rest =>
      refine (hkey x).bind fun k => Mirrors.map (blind_foldlM (fun best y => ?_) (x, k) rest) _
      refine (hkey y).bind fun k => (unadded_of _).bind fun better => ?_
      split <;> exact blind_pure _

theorem unadded_extremeOf (name : String) (r : Relation) (a : Arguments) :
    Unadded n (extremeOf apply name r a) := by
  have key := unadded_keyOf happly a
  unfold extremeOf
  refine (unadded_of _).bind fun _ => ?_
  split
  · exact blind_throw _
  · refine (unadded_of _).bind fun xs => (unadded_extremeItem r key xs).bind fun best => ?_
    split
    · exact blind_pure _
    · exact blind_pure _
    · exact blind_throw _
  · split
    · exact blind_throw _
    · exact (unadded_extremeItem r key _).map _

theorem unadded_sortItems (xs : List Value) (a : Arguments) : Unadded n (sortItems apply xs a) := by
  unfold sortItems
  refine (unadded_of _).bind fun _ => (unadded_of _).bind fun _ => (unadded_of _).bind fun _ => ?_
  exact (blind_mapM (fun x => (unadded_keyOf happly a x).map _) xs).bind fun _ => unadded_of _

theorem unadded_callFunction (name : String) (a : Arguments) :
    Unadded n (callFunction apply name a) := by
  unfold callFunction
  split
  · exact unadded_extremeOf happly _ _ a
  · exact unadded_extremeOf happly _ _ a
  · split
    · exact (unadded_of _).bind fun xs => (unadded_sortItems happly xs a).map _
    · exact blind_throw _
  · exact unadded_of _

theorem unadded_callMethod (v : Value) (name : String) (a : Arguments) :
    Unadded n (callMethod apply v name a) := by
  unfold callMethod
  -- the receiver is read first, in one way or another, and then the same is done with it
  extract_lets called
  have unadded (v : Value) : Unadded n (called v) := by
    simp only [called]
    split
    · refine (unadded_of _).bind fun _ => ?_
      split
      · exact blind_throw _
      · exact (unadded_sortItems happly _ a).bind fun xs =>
          (unadded_change v _).bind fun _ => blind_pure _
    · refine (unadded_of _).bind fun ended => ?_
      obtain ⟨result, _ | content⟩ := ended
      · exact blind_pure result
      · exact (unadded_change v content).bind fun _ => blind_pure result
  split
  · exact (unadded_current v).bind unadded
  · exact (unadded_look v).bind unadded

theorem unadded_callTypeMethod (type name : String) (a : Arguments) :
    Unadded n (callTypeMethod apply type name a) := by
  unfold callTypeMethod
  split
  · exact unadded_callMethod happly _ name a
  · split
    · exact blind_throw _
    · split
      · exact unadded_callMethod happly _ name _
      · exact blind_throw _

theorem unadded_callWith (f : Value) (a : Arguments) : Unadded n (callWith apply f a) := by
  unfold callWith
  split
  · exact unadded_callFunction happly _ a
  · exact unadded_of _
  · exact unadded_callTypeMethod happly _ _ a
  · exact unadded_callMethod happly _ _ a
  · exact blind_throw _
  · exact blind_throw _

end Apply

/-- Calling a value does not look at how many values a caller added. -/
theorem unadded_call (f : Value) (a : Arguments) : Unadded n (call f a) :=
  unadded_callWith (fun f x => unadded_callWith (fun _ _ => blind_throw _) f (.of [x])) f a

end Value

end Workflow
