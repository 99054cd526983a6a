import Workflow.Proofs.Expr.Names

/-!
# Names that nothing knows

An expression that reads a name which neither its scope nor the functions know stops there.
So a value for such a name makes a difference only where the evaluation stops at the name.
-/

namespace Workflow

namespace Expr

/-- Two evaluations do the same, unless the first one stops at a name that nothing knows. -/
def SameUnless {α : Type} (id : String) (m n : EvalM α) : Prop :=
  ∀ s, m s = n s ∨ ∃ t, m s = .error (.unknownName id) t

variable {id : String}

namespace SameUnless

variable {α β : Type}

theorem refl (m : EvalM α) : SameUnless id m m :=
  fun _ => .inl rfl

theorem bind {m n : EvalM α} {k l : α -> EvalM β} (h : SameUnless id m n)
    (hk : ∀ a, SameUnless id (k a) (l a)) : SameUnless id (m >>= k) (n >>= l) := by
  intro s
  simp only [Bind.bind, EStateM.bind]
  rcases h s with same | ⟨t, stopped⟩
  · rw [← same]
    cases m s with
    | ok a t => exact hk a t
    | error f t => exact .inl rfl
  · exact .inr ⟨t, by rw [stopped]⟩

/-- After the same beginning. -/
theorem after {m : EvalM α} {k l : α -> EvalM β} (hk : ∀ a, SameUnless id (k a) (l a)) :
    SameUnless id (m >>= k) (m >>= l) :=
  (refl m).bind hk

/-- Before the same end. -/
theorem before {m n : EvalM α} (h : SameUnless id m n) (k : α -> EvalM β) :
    SameUnless id (m >>= k) (n >>= k) :=
  h.bind fun a => refl (k a)

end SameUnless

open SameUnless (refl after)

theorem forEach_sameUnless {β : Type} {body other : β -> Value -> EvalM β}
    (h : ∀ acc item, SameUnless id (body acc item) (other acc item)) (fuel : Nat) (acc : β)
    (t : Traversal) : SameUnless id (forEach body fuel acc t) (forEach other fuel acc t) := by
  induction fuel generalizing acc t with
  | zero => exact refl _
  | succ fuel ih =>
      simp only [forEach]
      refine after fun s => after fun next => ?_
      split
      · exact refl _
      · next item rest => exact after fun _ => (h acc item).bind fun acc => ih acc rest

/-- One scope may know a name that the other one does not know, and that no function has. -/
structure Supplies (id : String) (s t : List (Value × Value)) : Prop where
  unbound : Value.field? s id = none
  plain : callable? id = none
  agree : AgreeOn (· ≠ id) s t

variable {s t : List (Value × Value)}

theorem nameValue_sameUnless (h : Supplies id s t) (read : String) :
    SameUnless id (nameValue s read) (nameValue t read) := by
  by_cases same : read = id
  · subst same
    refine after fun state => ?_
    split
    · exact refl _
    · rw [h.unbound, h.plain]
      exact fun state => .inr ⟨state, rfl⟩
  · rw [nameValue_agree h.agree same]
    exact refl _

mutual

/-- A value for a name that nothing knows makes no difference where it is not read. -/
theorem eval_sameUnless (h : Supplies id s t) (e : Expr) : SameUnless id (eval s e) (eval t e) := by
  match e with
  | .const v => simpa only [eval] using refl _
  | .name read => simpa only [eval] using nameValue_sameUnless h read
  | .unary op e =>
      rw [eval, eval]
      exact (eval_sameUnless h e).before _
  | .binary op l r =>
      have operated (op : BinaryOp) : SameUnless id
          (do applyBinary op (<- eval s l) (<- eval s r))
          (do applyBinary op (<- eval t l) (<- eval t r)) :=
        (eval_sameUnless h l).bind fun v => (eval_sameUnless h r).before _
      cases op with
      | matMul =>
          rw [eval, eval]
          exact refl _
      | _ => simpa only [eval] using operated _
  | .conj es =>
      rw [eval, eval]
      exact evalConj_sameUnless h _ es
  | .disj es =>
      rw [eval, eval]
      exact evalDisj_sameUnless h _ es
  | .compare first rest =>
      rw [eval, eval]
      exact (eval_sameUnless h first).bind fun v => evalChain_sameUnless h first v true rest
  | .choice test yes no =>
      rw [eval, eval]
      refine (eval_sameUnless h test).bind fun v => after fun v => ?_
      split
      · exact eval_sameUnless h yes
      · exact eval_sameUnless h no
  | .call callee args named =>
      -- taken before the cases, since only the callee as it stands is known to be smaller
      have found := eval_sameUnless h callee
      have called (f : Value) : SameUnless id
          (do callValue f (<- evalEach s args) (<- evalNamed s named))
          (do callValue f (<- evalEach t args) (<- evalNamed t named)) :=
        (evalEach_sameUnless h args).bind fun _ => (evalNamed_sameUnless h named).before _
      cases callee with
      | field owner attr =>
          rw [eval, eval]
          exact found.bind called
      | name function =>
          rw [eval, eval]
          split
          · exact refl _
          · exact called _
      | _ =>
          simp only [eval]
          exact refl _
  | .subscript container key =>
      have keyed := eval_sameUnless h key
      cases key with
      | slice lower upper step =>
          rw [eval, eval]
          exact (eval_sameUnless h container).bind fun v => (evalOptional_sameUnless h lower).bind
            fun l => (evalOptional_sameUnless h upper).bind fun u =>
              (evalOptional_sameUnless h step).before _
      | _ =>
          rw [eval, eval]
          exact (eval_sameUnless h container).bind fun v => keyed.before _
  | .slice lower upper step =>
      rw [eval, eval]
      exact (evalOptional_sameUnless h lower).bind fun _ => (evalOptional_sameUnless h upper).bind
        fun _ => (evalOptional_sameUnless h step).before _
  | .field owner attr =>
      rw [eval, eval]
      split
      · exact refl _
      · refine (eval_sameUnless h owner).bind fun v => after fun v => ?_
        split
        · exact refl _
        · exact after fun _ => (eval_sameUnless h owner).before _
  | .list es =>
      rw [eval, eval]
      exact (evalItems_sameUnless h es).before _
  | .tuple es =>
      rw [eval, eval]
      exact (evalEach_sameUnless h es).before _
  | .set es =>
      rw [eval, eval]
      exact (evalSet_sameUnless h [] es).before _
  | .dict entries =>
      rw [eval, eval]
      exact (evalEntries_sameUnless h [] entries).before _
  | .listOf item clauses =>
      rw [eval, eval]
      exact after fun _ =>
        (evalClauses_sameUnless h (fun _ => (eval_sameUnless h item).before _) [] clauses).before _
  | .dictOf key value clauses =>
      rw [eval, eval]
      refine after fun _ => (evalClauses_sameUnless h (fun acc => ?_) [] clauses).before _
      exact (eval_sameUnless h value).bind fun _ => (eval_sameUnless h key).before _
  | .starred e => simpa only [eval] using refl _
  | .joined parts =>
      rw [eval, eval]
      exact (evalParts_sameUnless h parts).before _
  | .formatted e spec =>
      match spec with
      | none =>
          rw [eval, eval]
          exact eval_sameUnless h e
      | some spec =>
          rw [eval, eval]
          exact (eval_sameUnless h spec).bind fun _ => after fun pattern =>
            (eval_sameUnless h e).before _
  | .excluded form => simpa only [eval] using refl _

theorem evalEach_sameUnless (h : Supplies id s t) (es : List Expr) :
    SameUnless id (evalEach s es) (evalEach t es) := by
  match es with
  | [] => simpa only [evalEach] using refl _
  | e :: rest =>
      rw [evalEach, evalEach]
      exact (eval_sameUnless h e).bind fun _ => (evalEach_sameUnless h rest).before _

theorem evalItems_sameUnless (h : Supplies id s t) (es : List Expr) :
    SameUnless id (evalItems s es) (evalItems t es) := by
  match es with
  | [] => simpa only [evalItems] using refl _
  | e :: rest =>
      have plain : SameUnless id
          (do let v <- eval s e
              pure (v :: (<- evalItems s rest)))
          (do let v <- eval t e
              pure (v :: (<- evalItems t rest))) :=
        (eval_sameUnless h e).bind fun _ => (evalItems_sameUnless h rest).before _
      cases e with
      | starred e =>
          rw [evalItems, evalItems]
          exact (eval_sameUnless h e).bind fun _ => after fun _ => after fun _ =>
            (evalItems_sameUnless h rest).before _
      | _ => simpa only [evalItems] using plain

theorem evalSet_sameUnless (h : Supplies id s t) (acc : List Value) (es : List Expr) :
    SameUnless id (evalSet s acc es) (evalSet t acc es) := by
  match es with
  | [] => simpa only [evalSet] using refl _
  | e :: rest =>
      rw [evalSet, evalSet]
      exact (eval_sameUnless h e).bind fun _ => after fun _ => after fun _ =>
        evalSet_sameUnless h _ rest

theorem evalEntries_sameUnless (h : Supplies id s t) (acc : List (Value × Value))
    (entries : List (Option Expr × Expr)) :
    SameUnless id (evalEntries s acc entries) (evalEntries t acc entries) := by
  match entries with
  | [] => simpa only [evalEntries] using refl _
  | (none, e) :: rest =>
      rw [evalEntries, evalEntries]
      exact (eval_sameUnless h e).bind fun _ => after fun _ => after fun _ =>
        evalEntries_sameUnless h _ rest
  | (some k, e) :: rest =>
      rw [evalEntries, evalEntries]
      exact (eval_sameUnless h e).bind fun _ => (eval_sameUnless h k).bind fun _ => after fun _ =>
        after fun _ => evalEntries_sameUnless h _ rest

theorem evalNamed_sameUnless (h : Supplies id s t) (named : List (Option String × Expr)) :
    SameUnless id (evalNamed s named) (evalNamed t named) := by
  match named with
  | [] => simpa only [evalNamed] using refl _
  | (none, e) :: rest =>
      rw [evalNamed, evalNamed]
      exact (eval_sameUnless h e).before _
  | (some argument, e) :: rest =>
      rw [evalNamed, evalNamed]
      exact (eval_sameUnless h e).bind fun _ => (evalNamed_sameUnless h rest).before _

theorem evalOptional_sameUnless (h : Supplies id s t) (o : Option Expr) :
    SameUnless id (evalOptional s o) (evalOptional t o) := by
  match o with
  | none => simpa only [evalOptional] using refl _
  | some e => simpa only [evalOptional] using eval_sameUnless h e

theorem evalConj_sameUnless (h : Supplies id s t) (last : Value) (es : List Expr) :
    SameUnless id (evalConj s last es) (evalConj t last es) := by
  match es with
  | [] => simpa only [evalConj] using refl _
  | e :: rest =>
      rw [evalConj, evalConj]
      refine (eval_sameUnless h e).bind fun _ => after fun v => ?_
      split
      · exact evalConj_sameUnless h v rest
      · exact refl _

theorem evalDisj_sameUnless (h : Supplies id s t) (last : Value) (es : List Expr) :
    SameUnless id (evalDisj s last es) (evalDisj t last es) := by
  match es with
  | [] => simpa only [evalDisj] using refl _
  | e :: rest =>
      rw [evalDisj, evalDisj]
      refine (eval_sameUnless h e).bind fun _ => after fun v => ?_
      split
      · exact refl _
      · exact evalDisj_sameUnless h v rest

theorem evalChain_sameUnless (h : Supplies id s t) (left : Expr) (v : Value) (holds : Bool)
    (rest : List (CompareOp × Expr)) :
    SameUnless id (evalChain s left v holds rest) (evalChain t left v holds rest) := by
  match rest with
  | [] => simpa only [evalChain] using refl _
  | (op, e) :: rest =>
      rw [evalChain, evalChain]
      split
      · exact refl _
      · exact (eval_sameUnless h e).bind fun w => after fun b => evalChain_sameUnless h e w b rest

theorem evalClauses_sameUnless (h : Supplies id s t)
    {yield other : List (Value × Value) -> EvalM (List (Value × Value))}
    (yields : ∀ acc, SameUnless id (yield acc) (other acc)) (acc : List (Value × Value))
    (clauses : List (Target × Expr × List Expr)) :
    SameUnless id (evalClauses s yield acc clauses) (evalClauses t other acc clauses) := by
  match clauses with
  | [] => simpa only [evalClauses] using yields acc
  | (target, source, conditions) :: rest =>
      rw [evalClauses, evalClauses]
      refine (eval_sameUnless h source).bind fun _ => after fun _ => after fun t =>
        forEach_sameUnless (fun acc item => ?_) _ acc t
      refine after fun _ => (evalConditions_sameUnless h conditions).bind fun holds => ?_
      split
      · exact evalClauses_sameUnless h yields acc rest
      · exact refl _

theorem evalConditions_sameUnless (h : Supplies id s t) (es : List Expr) :
    SameUnless id (evalConditions s es) (evalConditions t es) := by
  match es with
  | [] => simpa only [evalConditions] using refl _
  | e :: rest =>
      rw [evalConditions, evalConditions]
      refine (eval_sameUnless h e).bind fun _ => after fun v => ?_
      split
      · exact evalConditions_sameUnless h rest
      · exact refl _

theorem evalParts_sameUnless (h : Supplies id s t) (es : List Expr) :
    SameUnless id (evalParts s es) (evalParts t es) := by
  match es with
  | [] => simpa only [evalParts] using refl _
  | e :: rest =>
      rw [evalParts, evalParts]
      refine (eval_sameUnless h e).bind fun _ => after fun _ => after fun text => ?_
      split
      · exact refl _
      · exact (evalParts_sameUnless h rest).before _

end

/-- An evaluation stops at a name that nothing knows, or does what it does with a value for it. -/
theorem evaluate_unknown (h : Supplies id s t) (source : String) (o : Objects) :
    Expr.evaluate source s o = Expr.evaluate source t o ∨
      ∃ o', Expr.evaluate source s o = .error (.fault (.unknownName id)) o' := by
  unfold evaluate
  cases statementOf source with
  | error f => exact .inl rfl
  | ok e =>
      rcases eval_sameUnless h e ⟨0, [], [], o⟩ with same | ⟨u, stopped⟩
      · exact .inl (by simp only [same])
      · exact .inr ⟨u.objects, by simp only [stopped]⟩

end Expr

end Workflow
