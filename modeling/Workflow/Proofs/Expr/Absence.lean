import Workflow.Condition
import Workflow.Proofs.Expr.Chain
import Workflow.Proofs.Value.Marks

/-!
# Conditions on what is absent

A condition may be a chain of keys into the inputs or the recorded steps.  Where a mapping
on the way lacks the next key, the key is read as an attribute of the mapping.  Most names
are no attributes and the condition is false; but mappings have methods, and some names may
not be read at all.
-/

namespace Workflow

open Value (get? field?)

/-! ## Following keys -/

/--
Following keys from a value leads to a mapping that lacks the next one: the mapping, the
key it lacks and the keys after it.
-/
inductive Objects.Lacks (o : Objects) : Value -> List String -> Value -> String -> List String -> Prop
  | here {v : Value} {key : String} {rest : List String} (mapping : (o.look v).entries?.isSome)
      (absent : get? (o.look v) key = none) : Lacks o v (key :: rest) (o.look v) key rest
  | there {v part m : Value} {first key : String} {keys rest : List String}
      (present : get? (o.look v) first = some part) (later : Lacks o part keys m key rest) :
      Lacks o v (first :: keys) m key rest

/-- A name that may not be read as an attribute. -/
def Expr.IsRefused (name : String) : Prop :=
  isPrivate name = true ∨ name ∈ forbiddenAttributes

instance (name : String) : Decidable (Expr.IsRefused name) :=
  inferInstanceAs (Decidable (_ ∨ _))

/-- The key that a mapping lacks, or the one after it when it is a method, may not be read. -/
def Expr.Refuses (m : Value) (key : String) (rest : List String) : Prop :=
  IsRefused key ∨ key ∈ m.methodNames ∧ ∃ next ∈ rest.head?, IsRefused next

/-- The key that a mapping lacks is a method of the mapping, and the last key of the chain. -/
def Expr.EndsInMethod (m : Value) (key : String) (rest : List String) : Prop :=
  key ∈ m.methodNames ∧ rest = []

/-- A key that a mapping lacks means something else. -/
def Expr.Collides (m : Value) (key : String) (rest : List String) : Prop :=
  Refuses m key rest ∨ EndsInMethod m key rest

namespace Objects

theorem look_of_same_changes {o other : Objects} (h : o.changes = other.changes) (v : Value) :
    o.look v = other.look v := by
  cases v <;> simp only [look, current?, h]

/-- Where keys lead depends on the changes alone. -/
theorem Lacks.of_same_changes {o other : Objects} (h : o.changes = other.changes) {v m : Value}
    {keys rest : List String} {key : String} (lacks : o.Lacks v keys m key rest) :
    other.Lacks v keys m key rest := by
  induction lacks with
  | here mapping absent =>
      rw [look_of_same_changes h] at mapping absent ⊢
      exact .here mapping absent
  | there present _ ih =>
      rw [look_of_same_changes h] at present
      exact .there present ih

/-- The key that is found lacking is not in the mapping. -/
theorem Lacks.absent {o : Objects} {v m : Value} {keys rest : List String} {key : String}
    (lacks : o.Lacks v keys m key rest) : m.entries?.isSome ∧ get? m key = none := by
  induction lacks with
  | here mapping absent => exact ⟨mapping, absent⟩
  | there _ _ ih => exact ih

/-- The key that is found lacking is one of the keys, and so are those after it. -/
theorem Lacks.mem {o : Objects} {v m : Value} {keys rest : List String} {key : String}
    (lacks : o.Lacks v keys m key rest) : ∀ k ∈ key :: rest, k ∈ keys := by
  induction lacks with
  | here => exact fun k hk => hk
  | there _ _ ih => exact fun k hk => List.mem_cons_of_mem _ (ih k hk)

/-- Keys lead from a value with marks to a mapping with the same methods. -/
theorem Lacks.marked {o : Objects} (unused : o.Unused) {v w m : Value} {keys rest : List String}
    {key : String} (lacks : o.Lacks v keys m key rest) (marked : o.Marked v w) :
    ∃ m', o.Lacks w keys m' key rest ∧ m'.methodNames = m.methodNames := by
  induction lacks generalizing w with
  | here mapping absent =>
      have like := marked.look unused
      exact ⟨_, .here (like.mapping ▸ mapping) (like.absent _ absent), like.methods⟩
  | there present _ ih =>
      obtain ⟨p, found, marked⟩ := (marked.look unused).present _ _ present
      obtain ⟨m', lacks, methods⟩ := ih marked
      exact ⟨m', .there found lacks, methods⟩

end Objects

/-! ## Attributes of mappings -/

namespace Value

/-- A mapping has its entries below its mark, or one more mark. -/
theorem bare_of_entries {v : Value} {entries : List (Value × Value)}
    (held : v.entries? = some entries) : v.bare = .dict entries ∨ v.bare = .sealed entries ∨
      ∃ mark content, v.bare = .object mark content := by
  cases v with
  | dict =>
      cases held
      exact .inl rfl
  | «sealed» =>
      cases held
      exact .inr (.inl rfl)
  | object mark content =>
      cases content with
      | dict =>
          cases held
          exact .inl rfl
      | «sealed» =>
          cases held
          exact .inr (.inl rfl)
      | object => exact .inr (.inr ⟨_, _, rfl⟩)
      | _ => cases held
  | _ => cases held

/-- What a mapping has under a name is a method. -/
theorem attribute?_of_entries {m : Value} (h : m.entries?.isSome) (name : String) :
    attribute? m name = if m.methodNames.contains name then some (.method m name) else none := by
  cases m with
  | dict entries => rfl
  | sealed entries => rfl
  | object mark content =>
      have data : scalarAttribute? (.object mark content) name = none := by
        cases content <;> first | rfl | cases h
      simp only [attribute?, data]
  | _ => cases h

end Value

/-! ## Evaluating a chain -/

namespace Expr

variable {scope : List (Value × Value)} {e : Expr} {s t : EvalState} {v part : Value} {key : String}

/-- An expression has a value, and has it again when it is evaluated once more. -/
def Steady (scope : List (Value × Value)) (e : Expr) (s t : EvalState) (v : Value) : Prop :=
  eval scope e s = .ok v t ∧ eval scope e t = .ok v t

/-- A name of the scope gets its marks when it is read first, and keeps them. -/
theorem steady_name {id : String} (h : field? scope id = some v) (o : Objects) :
    Steady scope (.name id) ⟨0, [], [], o⟩ ⟨0, [], [(id, (o.adopt v).1)], (o.adopt v).2⟩
      (o.adopt v).1 := by
  have here (s : EvalState) : (get : EvalM EvalState) s = .ok s s := rfl
  constructor
  · simp [eval, nameValue, h, firstSeen, bind, EStateM.bind, here]
  · simp [eval, nameValue, bind, EStateM.bind, here, pure, EStateM.pure]

theorem look_eq (v : Value) (s : EvalState) : look v s = .ok (s.objects.look v) s :=
  rfl

theorem guardAttribute_of_refused (h : IsRefused key) (s : EvalState) :
    ∃ text, guardAttribute key s = .error (.forbidden text) s := by
  by_cases hidden : isPrivate key = true
  · exact ⟨_, by rw [guardAttribute, if_pos hidden]; rfl⟩
  · have listed : forbiddenAttributes.contains key = true :=
      List.contains_iff_mem.mpr (h.resolve_left hidden)
    exact ⟨_, by rw [guardAttribute, if_neg hidden, if_pos listed]; rfl⟩

theorem guardAttribute_of_allowed (h : ¬ IsRefused key) (s : EvalState) :
    guardAttribute key s = .ok () s := by
  obtain ⟨hidden, unlisted⟩ := not_or.mp h
  have unlisted : ¬ forbiddenAttributes.contains key = true := fun listed =>
    unlisted (List.contains_iff_mem.mp listed)
  rw [guardAttribute, if_neg hidden, if_neg unlisted]
  rfl

section Field

variable (visible : beginsWith "_" key = false)
include visible

theorem eval_field_of_error {f : EvalFault} (h : eval scope e s = .error f t) :
    eval scope (.field e key) s = .error f t := by
  simp only [eval, visible, Bool.false_eq_true, if_false, bind, EStateM.bind, h]

theorem eval_field_of_present (h : eval scope e s = .ok v t)
    (present : get? (t.objects.look v) key = some part) :
    eval scope (.field e key) s = .ok part t := by
  simp only [eval, visible, Bool.false_eq_true, if_false, bind, EStateM.bind, h, look_eq, present]
  rfl

theorem steady_field_of_present (h : Steady scope e s t v)
    (present : get? (t.objects.look v) key = some part) :
    Steady scope (.field e key) s t part :=
  ⟨eval_field_of_present visible h.1 present, eval_field_of_present visible h.2 present⟩

theorem eval_field_of_refused (h : eval scope e s = .ok v t)
    (absent : get? (t.objects.look v) key = none) (refused : IsRefused key) :
    ∃ text, eval scope (.field e key) s = .error (.forbidden text) t := by
  obtain ⟨text, complaint⟩ := guardAttribute_of_refused refused t
  refine ⟨text, ?_⟩
  simp only [eval, visible, Bool.false_eq_true, if_false, bind, EStateM.bind, h, look_eq, absent,
    complaint]

/-- A key that is absent is read as an attribute, of what the owner is when it is evaluated again. -/
theorem eval_field_of_allowed (h : Steady scope e s t v)
    (absent : get? (t.objects.look v) key = none) (allowed : ¬ IsRefused key) :
    eval scope (.field e key) s = readField (t.objects.look v) key t := by
  obtain ⟨first, again⟩ := h
  simp only [eval, visible, Bool.false_eq_true, if_false, bind, EStateM.bind, first, again, look_eq,
    absent, guardAttribute_of_allowed allowed]

end Field

theorem readField_of_none {m : Value} (plain : ∀ kind, m ≠ .converter kind)
    (h : Value.attribute? m key = none) (s : EvalState) :
    readField m key s = .error (.noAttribute key) s := by
  unfold readField
  rw [h]
  cases m with
  | converter kind => exact absurd rfl (plain kind)
  | _ => rfl

theorem readField_of_method {m : Value} (h : Value.attribute? m key = some (.method m key))
    (s : EvalState) : readField m key s = .ok (.method m key) s := by
  unfold readField
  rw [h]
  rfl

/-- A method of a mapping is a value, and stays the same. -/
theorem steady_field_of_method (visible : beginsWith "_" key = false) (h : Steady scope e s t v)
    (mapping : (t.objects.look v).entries?.isSome) (absent : get? (t.objects.look v) key = none)
    (allowed : ¬ IsRefused key) (listed : key ∈ (t.objects.look v).methodNames) :
    Steady scope (.field e key) s t (.method (t.objects.look v) key) := by
  have found : Value.attribute? (t.objects.look v) key =
      some (.method (t.objects.look v) key) := by
    rw [Value.attribute?_of_entries mapping, if_pos (List.contains_iff_mem.mpr listed)]
  constructor
  · rw [eval_field_of_allowed visible h absent allowed, readField_of_method found]
  · rw [eval_field_of_allowed visible ⟨h.2, h.2⟩ absent allowed, readField_of_method found]

section Chain

variable {keys rest : List String} {m : Value}

theorem eval_foldl_of_error {f : EvalFault} (visible : ∀ k ∈ keys, beginsWith "_" k = false)
    (h : eval scope e s = .error f t) : eval scope (keys.foldl .field e) s = .error f t := by
  induction keys generalizing e with
  | nil => exact h
  | cons k rest ih =>
      exact ih (fun k' hk => visible k' (List.mem_cons_of_mem k hk))
        (eval_field_of_error (visible k List.mem_cons_self) h)

/-- The chain up to the mapping that lacks a key has that mapping as its value. -/
theorem steady_of_lacks (lacks : t.objects.Lacks v keys m key rest)
    (visible : ∀ k ∈ keys, beginsWith "_" k = false) (h : Steady scope e s t v) :
    ∃ owner w, keys.foldl .field e = rest.foldl .field (.field owner key) ∧
      Steady scope owner s t w ∧ t.objects.look w = m := by
  induction lacks generalizing e with
  | here mapping absent => exact ⟨e, _, rfl, h, rfl⟩
  | @there v part m first key keys rest present later ih =>
      exact ih (fun k hk => visible k (List.mem_cons_of_mem first hk))
        (steady_field_of_present (visible first List.mem_cons_self) h present)

section Lacks

variable (lacks : t.objects.Lacks v keys m key rest)
  (visible : ∀ k ∈ keys, beginsWith "_" k = false) (h : Steady scope e s t v)
include lacks visible h

theorem eval_of_refuses (refuses : Refuses m key rest) :
    ∃ complaint, eval scope (keys.foldl .field e) s = .error (.forbidden complaint) t := by
  obtain ⟨mapping, absent⟩ := lacks.absent
  have shown : ∀ k ∈ key :: rest, beginsWith "_" k = false := fun k hk => visible k (lacks.mem k hk)
  obtain ⟨here, later⟩ := List.forall_mem_cons.mp shown
  obtain ⟨owner, w, split, steady, rfl⟩ := steady_of_lacks lacks visible h
  rw [split]
  by_cases refused : IsRefused key
  · obtain ⟨complaint, failed⟩ := eval_field_of_refused here steady.1 absent refused
    exact ⟨complaint, eval_foldl_of_error later failed⟩
  · obtain ⟨listed, next, head, forbidden⟩ := refuses.resolve_left refused
    obtain ⟨more, rfl⟩ := List.head?_eq_some_iff.mp head
    obtain ⟨visible, beyond⟩ := List.forall_mem_cons.mp later
    have method := steady_field_of_method here steady mapping absent refused listed
    obtain ⟨complaint, failed⟩ := eval_field_of_refused visible method.1 rfl forbidden
    have ended := eval_foldl_of_error beyond failed
    exact ⟨complaint, ended⟩

theorem eval_of_endsInMethod (allowed : ¬ IsRefused key) (ends : EndsInMethod m key rest) :
    eval scope (keys.foldl .field e) s = .ok (.method m key) t := by
  obtain ⟨mapping, absent⟩ := lacks.absent
  have here := visible key (lacks.mem key List.mem_cons_self)
  obtain ⟨owner, w, split, steady, rfl⟩ := steady_of_lacks lacks visible h
  obtain ⟨listed, rfl⟩ := ends
  rw [split]
  exact (steady_field_of_method here steady mapping absent allowed listed).1

/-- What is reported missing is the key that is absent, or the one after it when it is a method. -/
theorem eval_of_apart (apart : ¬ Collides m key rest) :
    ∃ name ∈ key :: rest, eval scope (keys.foldl .field e) s = .error (.noAttribute name) t := by
  obtain ⟨mapping, absent⟩ := lacks.absent
  have shown : ∀ k ∈ key :: rest, beginsWith "_" k = false := fun k hk => visible k (lacks.mem k hk)
  obtain ⟨here, later⟩ := List.forall_mem_cons.mp shown
  obtain ⟨owner, w, split, steady, rfl⟩ := steady_of_lacks lacks visible h
  obtain ⟨read, unended⟩ := not_or.mp apart
  have allowed : ¬ IsRefused key := fun refused => read (.inl refused)
  rw [split]
  by_cases listed : key ∈ (t.objects.look w).methodNames
  · cases rest with
    | nil => exact absurd ⟨listed, rfl⟩ unended
    | cons next more =>
        obtain ⟨visible, beyond⟩ := List.forall_mem_cons.mp later
        have method := steady_field_of_method here steady mapping absent allowed listed
        have free : ¬ IsRefused next := fun forbidden =>
          read (.inr ⟨listed, next, rfl, forbidden⟩)
        -- A method has no attributes.
        have failed := eval_field_of_allowed visible method rfl free
        rw [readField_of_none (by rintro kind ⟨⟩) rfl] at failed
        have ended := eval_foldl_of_error beyond failed
        exact ⟨next, by simp, ended⟩
  · have plain : ∀ kind, t.objects.look w ≠ .converter kind := by
      intro kind same
      rw [same] at mapping
      cases mapping
    have none : Value.attribute? (t.objects.look w) key = none := by
      rw [Value.attribute?_of_entries mapping, if_neg fun found =>
        listed (List.contains_iff_mem.mp found)]
    have failed := eval_field_of_allowed here steady absent allowed
    rw [readField_of_none plain none] at failed
    exact ⟨key, List.mem_cons_self, eval_foldl_of_error later failed⟩

end Lacks

end Chain

theorem evaluate_of_ok {source : String} (read : statementOf source = .ok e) {o : Objects}
    (h : eval scope e ⟨0, [], [], o⟩ = .ok v t) :
    evaluate source scope o = .ok (t.objects.refresh v) t.objects := by
  simp only [evaluate, read, h]

theorem evaluate_of_error {source : String} (read : statementOf source = .ok e) {o : Objects}
    {f : EvalFault} (h : eval scope e ⟨0, [], [], o⟩ = .error f t) :
    evaluate source scope o = .error (.fault f) t.objects := by
  simp only [evaluate, read, h]

end Expr

/-- A method counts as true, whatever its mapping holds by now. -/
theorem Objects.truthy_refresh_method (o : Objects) (receiver : Value) (name : String) :
    (o.refresh (.method receiver name)).truthy = true := by
  unfold refresh
  split <;> rfl

/-! ## Deciding a chain -/

/-- What a chain of data begins with: the inputs or the records of the steps. -/
def Context.dataAt (c : Context) (root : String) : Value :=
  if root = "inputs" then c.inputs else c.steps

theorem Context.field?_conditionScope (c : Context) {root : String}
    (data : root ∈ Reading.dataRoots) : field? c.conditionScope root = some (c.dataAt root) := by
  rcases Reading.eq_of_dataRoots data with rfl | rfl
  · exact (Value.field?_putField_of_ne _ c.steps (by decide)).trans
      (Value.field?_putField_self _ "inputs" c.inputs)
  · exact Value.field?_putField_self _ "steps" c.steps

namespace Condition

variable {σ : Type} {text : String} {scope : List (Value × Value)} {w : World σ} {o : Objects}

theorem decideBound_of_ok {v : Value} (h : Expr.evaluate text scope w.objects = .ok v o) :
    decideBound text scope ⟨text.toList, [], []⟩ w = .ok v.truthy { w with objects := o } := by
  simp only [decideBound, bindOver, Context.overlay, List.foldl_nil, String.ofList_toList]
  simp only [bind, EStateM.bind, Run.tried, Expression.evaluateBool, Expression.evaluate, h]
  rfl

theorem decideBound_of_missing {f : Expr.Failure}
    (h : Expr.evaluate text scope w.objects = .error f o) (missing : f.isMissing = true) :
    decideBound text scope ⟨text.toList, [], []⟩ w =
      .ok false { w.logged .warning (missingWarning text (f.message text)) with objects := o } := by
  simp only [decideBound, bindOver, Context.overlay, List.foldl_nil, String.ofList_toList]
  simp only [bind, EStateM.bind, Run.tried, Expression.evaluateBool, Expression.evaluate, h]
  have told : (Expression.errorOf text f).isMissingReference = true := missing
  simp only [told, if_true]
  rfl

theorem decideBound_of_failure {f : Expr.Failure}
    (h : Expr.evaluate text scope w.objects = .error f o) (present : f.isMissing = false) :
    decideBound text scope ⟨text.toList, [], []⟩ w =
      .error (.error (Expression.errorOf text f)) { w with objects := o } := by
  simp only [decideBound, bindOver, Context.overlay, List.foldl_nil, String.ofList_toList]
  simp only [bind, EStateM.bind, Run.tried, Expression.evaluateBool, Expression.evaluate, h]
  have told : (Expression.errorOf text f).isMissingReference = false := present
  simp only [told, Bool.false_eq_true, if_false]
  rfl

section Chain

variable {root : String} (data : root ∈ Reading.dataRoots) {keys : List String}
  (words : ∀ k ∈ keys, IsWord k)
include data words

/-- A chain of data has no tokens, so it is evaluated as it stands. -/
theorem decide_chain (c : Context) (w : World σ) :
    decide c (.str (chainText root keys)) w =
      decideBound (chainText root keys) (c.current w.objects).conditionScope
        ⟨(chainText root keys).toList, [], []⟩ w := by
  have first := Reading.isWord_of_dataRoots data
  have chars : ∀ d ∈ (chainText root keys).toList, IsChainChar d := fun d hd =>
    Reading.chainText_chars first.name (fun k hk => (words k hk).name) hd
  have written : (Text.strip (chainText root keys)).isEmpty = false := by
    obtain ⟨d, ds, hs, _⟩ := first.name.nonempty
    rw [Text.strip, Reading.trim_chain chars, String.ofList_toList, String.isEmpty_eq_false_iff]
    intro blank
    have none : (chainText root keys).toList = [] := by rw [blank]; rfl
    rw [toList_chainText, hs] at none
    cases none
  have here : (get : Run σ (World σ)) w = .ok w w := rfl
  simp only [decide, written, Bool.false_eq_true, if_false]
  simp only [bind, EStateM.bind, here, Run.resolving, Reference.bind_of_chain _ _ chars]

end Chain

/-- What a condition finds under the first name of a chain, with marks for what can be changed. -/
def found (c : Context) (o : Objects) (root : String) : Value :=
  (o.adopt ((c.current o).dataAt root)).1

/-- What a condition finds lacks the keys that the context lacks. -/
theorem lacks_found {c : Context} {root : String} (unused : o.Unused) {m : Value}
    {keys rest : List String} {key : String} (lacks : o.Lacks ((c.current o).dataAt root) keys m key rest) :
    ∃ m', o.Lacks (found c o root) keys m' key rest ∧ m'.methodNames = m.methodNames :=
  lacks.marked unused (.given _ (Nat.le_refl o.next))

section Absent

variable {c : Context} {root : String} (data : root ∈ Reading.dataRoots) {keys rest : List String}
  (words : ∀ k ∈ keys, IsWord k) (visible : ∀ k ∈ keys, Expr.beginsWith "_" k = false)
  {m : Value} {key : String} (lacks : w.objects.Lacks (found c w.objects root) keys m key rest)
include data

/-- The first name of a chain is what the condition finds under it. -/
theorem steady_found (c : Context) (w : World σ) :
    ∃ t : Expr.EvalState, t.objects.changes = w.objects.changes ∧
      Expr.Steady (c.current w.objects).conditionScope (.name root) ⟨0, [], [], w.objects⟩ t
        (found c w.objects root) :=
  ⟨_, rfl, Expr.steady_name ((c.current w.objects).field?_conditionScope data) w.objects⟩

include words visible lacks

/-- A chain that runs into a name that may not be read is an error. -/
theorem decide_of_refuses (refuses : Expr.Refuses m key rest) :
    ∃ complaint objects, decide c (.str (chainText root keys)) w =
      .error (.error (Expression.errorOf (chainText root keys) (.fault (.forbidden complaint))))
        { w with objects } := by
  obtain ⟨t, same, start⟩ := steady_found data c w
  obtain ⟨complaint, failed⟩ :=
    Expr.eval_of_refuses (lacks.of_same_changes same.symm) visible start refuses
  have failed := Expr.evaluate_of_error (Expr.statementOf_chain (Reading.isWord_of_dataRoots data) words) failed
  exact ⟨complaint, _, by rw [decide_chain data words, decideBound_of_failure failed rfl]⟩

/-- A chain that ends in a method of a mapping is true. -/
theorem decide_of_endsInMethod (allowed : ¬ Expr.IsRefused key)
    (ends : Expr.EndsInMethod m key rest) :
    ∃ objects, decide c (.str (chainText root keys)) w = .ok true { w with objects } := by
  obtain ⟨t, same, start⟩ := steady_found data c w
  have value := Expr.eval_of_endsInMethod (lacks.of_same_changes same.symm) visible start allowed ends
  have value := Expr.evaluate_of_ok (Expr.statementOf_chain (Reading.isWord_of_dataRoots data) words) value
  refine ⟨t.objects, ?_⟩
  rw [decide_chain data words, decideBound_of_ok value, Objects.truthy_refresh_method]

/--
A chain that meets a mapping without the next key is false, and the log warns of what is
missing, exactly when the key means nothing else.
-/
theorem decide_absent_iff :
    (∃ name ∈ key :: rest, ∃ objects, objects.changes = w.objects.changes ∧
      decide c (.str (chainText root keys)) w =
        .ok false { w.logged .warning (missingWarning (chainText root keys)
          (Expr.Failure.message (chainText root keys) (.fault (.noAttribute name)))) with objects })
      ↔ ¬ Expr.Collides m key rest := by
  constructor
  · rintro ⟨name, _, objects, _, decided⟩ collides
    by_cases refuses : Expr.Refuses m key rest
    · obtain ⟨_, _, failed⟩ := decide_of_refuses data words visible lacks refuses
      rw [failed] at decided
      cases decided
    · obtain ⟨_, held⟩ := decide_of_endsInMethod data words visible lacks
        (fun refused => refuses (.inl refused)) (collides.resolve_left refuses)
      rw [held] at decided
      cases decided
  · intro apart
    obtain ⟨t, same, start⟩ := steady_found data c w
    obtain ⟨name, named, failed⟩ :=
      Expr.eval_of_apart (lacks.of_same_changes same.symm) visible start apart
    have failed := Expr.evaluate_of_error (Expr.statementOf_chain (Reading.isWord_of_dataRoots data) words) failed
    refine ⟨name, named, t.objects, same, ?_⟩
    rw [decide_chain data words, decideBound_of_missing failed rfl]

end Absent

/-- One input, and one step that gave a mapping with one key. -/
def fetched : Context :=
  ⟨.dict [(.str "x", .int 1)], [], [], [],
    [("fetch", ⟨.dict [(.str "total", .int 3)], "completed", ⟨⟨2024, 1, 2⟩, 3, 4, 5, 0, none⟩⟩)]⟩

/-- A world in which nothing has happened. -/
def still : World Unit :=
  .start ⟨⟨⟨2024, 1, 2⟩, 3, 4, 5, 0, none⟩, 0⟩ 0.5 ()

theorem unused_still : still.objects.Unused :=
  fun _ _ => rfl

/-- A key that the output of a step lacks. -/
theorem decide_absent_iff_price :
    ∃ name ∈ ["price", "net"], ∃ objects, objects.changes = [] ∧
      decide fetched (.str "steps.fetch.output.price.net") still =
        .ok false { still.logged .warning (missingWarning "steps.fetch.output.price.net"
          (Expr.Failure.message "steps.fetch.output.price.net" (.fault (.noAttribute name))))
          with objects } := by
  have lacks : still.objects.Lacks ((fetched.current still.objects).dataAt "steps")
      ["fetch", "output", "price", "net"] (.dict [(.str "total", .int 3)]) "price" ["net"] :=
    .there rfl (.there rfl (.here rfl rfl))
  obtain ⟨m, found, methods⟩ := lacks_found unused_still lacks
  have apart : ¬ Expr.Collides m "price" ["net"] := by
    unfold Expr.Collides Expr.Refuses Expr.EndsInMethod
    rw [methods]
    decide
  have written : chainText "steps" ["fetch", "output", "price", "net"] =
      "steps.fetch.output.price.net" := by decide
  rw [← written]
  exact (decide_absent_iff (by decide) (by decide) (by decide) found).mpr apart

/-- The name of a method of mappings makes a condition true, though no input has the name. -/
theorem decide_items :
    still.objects.Lacks ((fetched.current still.objects).dataAt "inputs") ["items"]
        (.dict [(.str "x", .int 1)]) "items" [] ∧
      IsWord "items" ∧ Expr.beginsWith "_" "items" = false ∧
      ∃ objects, decide fetched (.str "inputs.items") still = .ok true { still with objects } := by
  have lacks : still.objects.Lacks ((fetched.current still.objects).dataAt "inputs") ["items"]
      (.dict [(.str "x", .int 1)]) "items" [] := .here rfl rfl
  have word : IsWord "items" := by decide
  refine ⟨lacks, word, by decide, ?_⟩
  obtain ⟨m, found, methods⟩ := lacks_found unused_still lacks
  have ends : Expr.EndsInMethod m "items" [] := by
    unfold Expr.EndsInMethod
    rw [methods]
    decide
  have allowed : ¬ Expr.IsRefused "items" := by decide
  have written : chainText "inputs" ["items"] = "inputs.items" := by decide
  rw [← written]
  exact decide_of_endsInMethod (by decide) (by simpa using word) (by decide) found allowed ends

end Condition

end Workflow
