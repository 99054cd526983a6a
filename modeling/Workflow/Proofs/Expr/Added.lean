import Workflow.Expression
import Workflow.Proofs.Value.Added

/-!
# Expressions and added values

An expression does not tell how many values a caller added.  Evaluating it with more or
fewer of them gives the same value, the same failure and the same changes.
-/

namespace Workflow

open Effect

namespace Traversal

variable (n : Nat) (o : Objects)

@[simp] theorem listItems_withAdded (owner : Value) :
    listItems (o.withAdded n) owner = listItems o owner := by
  simp only [listItems, Objects.look_withAdded]

@[simp] theorem setItems_withAdded (owner : Value) :
    setItems (o.withAdded n) owner = setItems o owner := by
  simp only [setItems, Objects.look_withAdded]

@[simp] theorem shown_withAdded (kind : ViewKind) (owner : Value) :
    shown (o.withAdded n) kind owner = shown o kind owner := by
  simp only [shown, Objects.look_withAdded]

theorem start_withAdded (v : Value) : start (o.withAdded n) v = start o v := by
  simp only [start, Objects.look_withAdded, shown_withAdded]

theorem next_withAdded (t : Traversal) : t.next (o.withAdded n) = t.next o := by
  cases t with
  | fixed items => cases items <;> rfl
  | forward owner place => simp only [next, listItems_withAdded]
  | backward owner place => cases place <;> simp only [next, listItems_withAdded]
  | entries kind owner size place reverse => simp only [next, shown_withAdded]
  | members owner size place => simp only [next, setItems_withAdded]

end Traversal

namespace Expr

variable {α β : Type} {n : Nat}

/-- The same state of an evaluation, with so many values that a caller added. -/
def EvalState.withAdded (n : Nat) (s : EvalState) : EvalState :=
  { s with objects := s.objects.withAdded n }

/-- An evaluation does not look at how many values a caller added. -/
abbrev Unadded (n : Nat) (m : EvalM α) : Prop :=
  Blind (EvalState.withAdded n) m

/-! ## Operations -/

theorem unadded_lift (r : Outcome α) : Unadded n (lift r) := by
  cases r with
  | ok x => exact blind_pure x
  | error f => exact blind_throw _

theorem unadded_forbid (text : String) : Unadded n (forbid text : EvalM α) :=
  blind_throw _

theorem unadded_perform {action : Action α} (h : Action.Unadded n action) :
    Unadded n (perform action) := by
  intro s
  have same := h s.objects
  simp only [perform, EvalState.withAdded, same]
  cases action s.objects <;> rfl

theorem unadded_current (v : Value) : Unadded n (current v) :=
  unadded_perform (Action.unadded_current v)

theorem unadded_look (v : Value) : Unadded n (look v) :=
  unadded_perform (Action.unadded_look v)

theorem unadded_make (r : Outcome Value) : Unadded n (make r) :=
  unadded_perform (Action.unadded_make r)

theorem unadded_operandLength? (v : Value) : Unadded n (operandLength? v) := by
  unfold operandLength?
  split
  · split
    · exact blind_throw _
    · exact blind_pure _
  · exact blind_pure _

theorem unadded_guardRepeat (times sequence : Value) : Unadded n (guardRepeat times sequence) := by
  refine (unadded_operandLength? sequence).bind fun length => ?_
  split
  · exact blind_pure _
  · refine (unadded_lift _).bind fun total => (unadded_lift _).bind fun long => ?_
    split
    · exact unadded_forbid _
    · exact blind_pure _

theorem unadded_exceeds (v : Value) (limit : Int) : Unadded n (exceeds v limit) :=
  (unadded_lift _).bind fun _ => unadded_lift _

theorem unadded_applyBinary (op : BinaryOp) (v w : Value) : Unadded n (applyBinary op v w) := by
  refine (unadded_current v).bind fun v => (unadded_current w).bind fun w => ?_
  extract_lets refuse
  have refused (sign : String) : Unadded n (refuse sign) :=
    (unadded_lift _).bind fun _ => (unadded_lift _).bind fun _ => unadded_forbid _
  -- powers and shifts are refused where either operand exceeds a limit of its own
  have limited (a b : Value) (l m : Int) (sign : String) (r : Outcome Value) : Unadded n (do
      if (<- exceeds a l) then refuse sign
      else if (<- exceeds b m) then refuse sign
      else make r) := by
    refine (unadded_exceeds a l).bind fun first => ?_
    split
    · exact refused sign
    · refine (unadded_exceeds b m).bind fun second => ?_
      split
      · exact refused sign
      · exact unadded_make r
  cases op with
  | add =>
      dsimp only
      split
      · refine (unadded_operandLength? v).bind fun _ =>
          (unadded_operandLength? w).bind fun _ => ?_
        split
        · exact (unadded_forbid _).bind fun _ => unadded_make _
        · exact unadded_make _
      · exact unadded_make _
  | mul =>
      exact (unadded_guardRepeat w v).bind fun _ => (unadded_guardRepeat v w).bind fun _ =>
        unadded_make _
  | pow => exact limited v w _ _ _ _
  | shiftLeft => exact limited w v _ _ _ _
  | shiftRight => exact limited w v _ _ _ _
  | _ => exact unadded_make _

theorem unadded_applyComparison (op : CompareOp) (same : Bool) (v w : Value) :
    Unadded n (applyComparison op same v w) := by
  refine (unadded_current v).bind fun v => (unadded_current w).bind fun w => ?_
  cases op with
  | related r => exact unadded_lift _
  | isIn => exact unadded_lift _
  | notIn => exact (unadded_lift _).map _
  | _ => exact blind_pure _

theorem unadded_readField (v : Value) (name : String) : Unadded n (readField v name) := by
  unfold readField
  split
  · exact unadded_make _
  · split
    · exact blind_pure _
    · exact blind_throw _
  · exact blind_throw _

theorem unadded_guardAttribute (name : String) : Unadded n (guardAttribute name) := by
  unfold guardAttribute
  split
  · exact unadded_forbid _
  · split
    · exact unadded_forbid _
    · exact blind_pure _

/-! ## Names and bindings -/

theorem unadded_firstSeen (id : String) (v : Value) : Unadded n (firstSeen id v) :=
  fun _ => rfl

theorem unadded_nameValue (scope : List (Value × Value)) (id : String) :
    Unadded n (nameValue scope id) := by
  refine mirrors_get fun s => ?_
  simp only [EvalState.withAdded]
  split
  · exact blind_pure _
  · split
    · exact unadded_firstSeen id _
    · exact blind_pure _
    · exact blind_throw _

theorem unadded_openFrame : Unadded n openFrame :=
  blind_modify fun _ => rfl

theorem unadded_closeFrame : Unadded n closeFrame :=
  blind_modify fun _ => rfl

theorem unadded_bindName (id : String) (v : Value) : Unadded n (bindName id v) :=
  blind_modify fun s => by
    obtain ⟨count, frames, seen, objects⟩ := s
    cases frames <;> rfl

mutual

theorem unadded_bindTarget (t : Target) (v : Value) : Unadded n (bindTarget t v) := by
  match t with
  | .name id =>
      rw [bindTarget]
      exact unadded_bindName id v
  | .several ts =>
      rw [bindTarget]
      exact (unadded_look v).bind fun _ => (unadded_lift _).bind fun items =>
        unadded_bindTargets ts items
  | .other form =>
      rw [bindTarget]
      exact blind_throw _

theorem unadded_bindTargets (ts : List Target) (vs : List Value) :
    Unadded n (bindTargets ts vs) := by
  match ts, vs with
  | [], _ =>
      rw [bindTargets]
      · exact blind_pure ()
      · nofun
  | _ :: _, [] =>
      rw [bindTargets]
      · exact blind_pure ()
      · nofun
  | t :: ts, v :: vs =>
      rw [bindTargets]
      exact (unadded_bindTarget t v).bind fun _ => unadded_bindTargets ts vs

end

theorem unadded_countBinding : Unadded n countBinding := by
  refine mirrors_get fun s => ?_
  by_cases many : maxBindings < s.count + 1
  · simp only [EvalState.withAdded, many, if_true]
    exact unadded_forbid _
  · simp only [EvalState.withAdded, many, if_false]
    exact blind_modify fun _ => rfl

theorem unadded_forEach {body : β -> Value -> EvalM β} (h : ∀ acc v, Unadded n (body acc v))
    (fuel : Nat) (acc : β) (t : Traversal) : Unadded n (forEach body fuel acc t) := by
  induction fuel generalizing acc t with
  | zero => exact blind_pure acc
  | succ fuel ih =>
      refine mirrors_get fun s => ?_
      simp only [EvalState.withAdded, Traversal.next_withAdded]
      refine (unadded_lift _).bind fun reached => ?_
      split
      · exact blind_pure acc
      · next item rest =>
          exact unadded_countBinding.bind fun _ => (h acc item).bind fun acc => ih acc rest

/-! ## Formatted values and calls -/

theorem unadded_formatValue (v : Value) (spec : String) : Unadded n (formatValue v spec) :=
  (unadded_current v).bind fun _ => (unadded_lift _).map _

theorem unadded_callValue (f : Value) (positional : List Value) (named : List (String × Value)) :
    Unadded n (callValue f positional named) := by
  refine (blind_mapM unadded_current positional).bind fun positional => ?_
  refine (blind_mapM (fun p => (unadded_current p.2).map _) named).bind fun named => ?_
  exact unadded_perform ((Value.unadded_call f _).bind Action.unadded_own)

/-! ## Evaluation -/

variable (scope : List (Value × Value))

mutual

/-- An expression is evaluated the same, however many values a caller added. -/
theorem unadded_eval (e : Expr) : Unadded n (eval scope e) := by
  match e with
  | .const v =>
      rw [eval]
      split
      · split
        · exact unadded_forbid _
        · exact blind_pure v
      · exact blind_pure v
  | .name id =>
      rw [eval]
      exact unadded_nameValue scope id
  | .unary op e =>
      rw [eval]
      exact (unadded_eval e).bind fun v => (unadded_current v).bind fun _ => unadded_make _
  | .binary op l r =>
      have operated (op : BinaryOp) : Unadded n (do
          let v <- eval scope l
          let w <- eval scope r
          applyBinary op v w) :=
        (unadded_eval l).bind fun v => (unadded_eval r).bind fun w => unadded_applyBinary op v w
      cases op with
      | matMul =>
          rw [eval]
          exact unadded_forbid _
      | _ => simpa only [eval] using operated _
  | .conj es =>
      rw [eval]
      exact unadded_evalConj _ es
  | .disj es =>
      rw [eval]
      exact unadded_evalDisj _ es
  | .compare first rest =>
      rw [eval]
      exact (unadded_eval first).bind fun v => unadded_evalChain first v true rest
  | .choice test yes no =>
      rw [eval]
      refine (unadded_eval test).bind fun v => (unadded_look v).bind fun t => ?_
      split
      · exact unadded_eval yes
      · exact unadded_eval no
  | .call callee args named =>
      -- taken before the cases, since only the callee as it stands is known to be smaller
      have found := unadded_eval callee
      have called (f : Value) : Unadded n (do
          let positional <- evalEach scope args
          let named <- evalNamed scope named
          callValue f positional named) :=
        (unadded_evalEach args).bind fun positional =>
          (unadded_evalNamed named).bind fun named => unadded_callValue f positional named
      cases callee with
      | field owner attr =>
          rw [eval]
          exact found.bind called
      | name id =>
          rw [eval]
          split
          · exact blind_throw _
          · exact called _
      | _ =>
          simp only [eval]
          exact unadded_forbid _
  | .subscript container key =>
      have keyed := unadded_eval key
      have read (v : Value) : Unadded n (do
          let k <- current (<- eval scope key)
          let v <- look v
          match v.entries?, k with
          | some _, .tuple ks =>
              if ks.any fun x => match x with
                | .foreign "slice" => true
                | _ => false
              then throw (.fault (.unhashable "slice"))
              else lift (Value.subscript v k)
          | _, _ => make (Value.subscript v k)) := by
        refine keyed.bind fun k => (unadded_current k).bind fun k =>
          (unadded_look v).bind fun v => ?_
        split
        · split
          · exact blind_throw _
          · exact unadded_lift _
        · exact unadded_make _
      cases key with
      | slice lower upper step =>
          rw [eval]
          exact (unadded_eval container).bind fun v => (unadded_evalOptional lower).bind fun l =>
            (unadded_evalOptional upper).bind fun u => (unadded_evalOptional step).bind fun s =>
              (unadded_look v).bind fun _ => unadded_make _
      | _ =>
          rw [eval]
          exact (unadded_eval container).bind read
  | .slice lower upper step =>
      rw [eval]
      exact (unadded_evalOptional lower).bind fun _ => (unadded_evalOptional upper).bind fun _ =>
        (unadded_evalOptional step).map _
  | .field owner attr =>
      rw [eval]
      split
      · exact unadded_forbid _
      · refine (unadded_eval owner).bind fun v => (unadded_look v).bind fun v => ?_
        split
        · exact blind_pure _
        · exact (unadded_guardAttribute attr).bind fun _ => (unadded_eval owner).bind fun v =>
            (unadded_look v).bind fun v => unadded_readField v attr
  | .list es =>
      rw [eval]
      exact (unadded_evalItems es).bind fun _ => unadded_make _
  | .tuple es =>
      rw [eval]
      exact (unadded_evalEach es).map _
  | .set es =>
      rw [eval]
      exact (unadded_evalSet [] es).bind fun _ => unadded_make _
  | .dict entries =>
      rw [eval]
      exact (unadded_evalEntries [] entries).bind fun _ => unadded_make _
  | .listOf item clauses =>
      rw [eval]
      exact unadded_openFrame.bind fun _ =>
        (unadded_evalClauses (fun _ => (unadded_eval item).map _) [] clauses).bind fun _ =>
          unadded_closeFrame.bind fun _ => unadded_make _
  | .dictOf key value clauses =>
      rw [eval]
      refine unadded_openFrame.bind fun _ =>
        (unadded_evalClauses (fun acc => ?_) [] clauses).bind fun _ =>
          unadded_closeFrame.bind fun _ => unadded_make _
      exact (unadded_eval value).bind fun _ => (unadded_eval key).bind fun k =>
        (unadded_current k).bind fun _ => (unadded_lift _).map _
  | .starred e =>
      rw [eval]
      exact unadded_forbid _
  | .joined parts =>
      rw [eval]
      exact (unadded_evalParts parts).map _
  | .formatted e spec =>
      match spec with
      | none =>
          rw [eval]
          exact unadded_eval e
      | some s =>
          rw [eval]
          exact (unadded_eval s).bind fun _ => (unadded_lift _).bind fun pattern =>
            (unadded_eval e).bind fun v => unadded_formatValue v pattern
  | .excluded form =>
      rw [eval]
      exact unadded_forbid _

theorem unadded_evalEach (es : List Expr) : Unadded n (evalEach scope es) := by
  match es with
  | [] =>
      rw [evalEach]
      exact blind_pure []
  | e :: rest =>
      rw [evalEach]
      exact (unadded_eval e).bind fun _ => (unadded_evalEach rest).map _

theorem unadded_evalItems (es : List Expr) : Unadded n (evalItems scope es) := by
  match es with
  | [] =>
      rw [evalItems]
      exact blind_pure []
  | e :: rest =>
      have plain : Unadded n (do
          let v <- eval scope e
          pure (v :: (<- evalItems scope rest))) :=
        (unadded_eval e).bind fun _ => (unadded_evalItems rest).map _
      cases e with
      | starred e =>
          rw [evalItems]
          exact (unadded_eval e).bind fun v => (unadded_look v).bind fun _ =>
            (unadded_lift _).bind fun _ => (unadded_evalItems rest).map _
      | _ => simpa only [evalItems] using plain

theorem unadded_evalSet (acc : List Value) (es : List Expr) : Unadded n (evalSet scope acc es) := by
  match es with
  | [] =>
      rw [evalSet]
      exact blind_pure acc
  | e :: rest =>
      rw [evalSet]
      exact (unadded_eval e).bind fun v => (unadded_current v).bind fun _ =>
        (unadded_lift _).bind fun _ => unadded_evalSet _ rest

theorem unadded_evalEntries (acc : List (Value × Value)) (entries : List (Option Expr × Expr)) :
    Unadded n (evalEntries scope acc entries) := by
  match entries with
  | [] =>
      rw [evalEntries]
      exact blind_pure acc
  | (none, e) :: rest =>
      rw [evalEntries]
      exact (unadded_eval e).bind fun v => (unadded_current v).bind fun _ =>
        (unadded_lift _).bind fun _ => unadded_evalEntries _ rest
  | (some k, e) :: rest =>
      rw [evalEntries]
      exact (unadded_eval e).bind fun _ => (unadded_eval k).bind fun v =>
        (unadded_current v).bind fun _ => (unadded_lift _).bind fun _ =>
          unadded_evalEntries _ rest

theorem unadded_evalNamed (named : List (Option String × Expr)) :
    Unadded n (evalNamed scope named) := by
  match named with
  | [] =>
      rw [evalNamed]
      exact blind_pure []
  | (none, e) :: rest =>
      rw [evalNamed]
      exact (unadded_eval e).bind fun _ => blind_throw _
  | (some id, e) :: rest =>
      rw [evalNamed]
      exact (unadded_eval e).bind fun _ => (unadded_evalNamed rest).map _

theorem unadded_evalOptional (o : Option Expr) : Unadded n (evalOptional scope o) := by
  match o with
  | none =>
      rw [evalOptional]
      exact blind_pure Value.null
  | some e =>
      rw [evalOptional]
      exact unadded_eval e

theorem unadded_evalConj (last : Value) (es : List Expr) : Unadded n (evalConj scope last es) := by
  match es with
  | [] =>
      rw [evalConj]
      exact blind_pure last
  | e :: rest =>
      rw [evalConj]
      refine (unadded_eval e).bind fun v => (unadded_look v).bind fun v => ?_
      split
      · exact unadded_evalConj v rest
      · exact blind_pure v

theorem unadded_evalDisj (last : Value) (es : List Expr) : Unadded n (evalDisj scope last es) := by
  match es with
  | [] =>
      rw [evalDisj]
      exact blind_pure last
  | e :: rest =>
      rw [evalDisj]
      refine (unadded_eval e).bind fun v => (unadded_look v).bind fun v => ?_
      split
      · exact blind_pure v
      · exact unadded_evalDisj v rest

theorem unadded_evalChain (left : Expr) (v : Value) (holds : Bool)
    (rest : List (CompareOp × Expr)) : Unadded n (evalChain scope left v holds rest) := by
  match rest with
  | [] =>
      rw [evalChain]
      exact blind_pure _
  | (op, e) :: rest =>
      rw [evalChain]
      split
      · exact blind_pure _
      · exact (unadded_eval e).bind fun w => (unadded_applyComparison op _ v w).bind fun b =>
          unadded_evalChain e w b rest

theorem unadded_evalClauses {yield : List (Value × Value) -> EvalM (List (Value × Value))}
    (h : ∀ acc, Unadded n (yield acc)) (acc : List (Value × Value))
    (clauses : List (Target × Expr × List Expr)) :
    Unadded n (evalClauses scope yield acc clauses) := by
  match clauses with
  | [] =>
      rw [evalClauses]
      exact h acc
  | (target, source, conditions) :: rest =>
      rw [evalClauses]
      refine (unadded_eval source).bind fun v => mirrors_get fun s => ?_
      simp only [EvalState.withAdded, Traversal.start_withAdded]
      refine (unadded_lift _).bind fun t => unadded_forEach (fun acc item => ?_) _ acc t
      refine (unadded_bindTarget target item).bind fun _ =>
        (unadded_evalConditions conditions).bind fun holds => ?_
      split
      · exact unadded_evalClauses h acc rest
      · exact blind_pure acc

theorem unadded_evalConditions (es : List Expr) : Unadded n (evalConditions scope es) := by
  match es with
  | [] =>
      rw [evalConditions]
      exact blind_pure true
  | e :: rest =>
      rw [evalConditions]
      refine (unadded_eval e).bind fun v => (unadded_look v).bind fun v => ?_
      split
      · exact unadded_evalConditions rest
      · exact blind_pure false

theorem unadded_evalParts (es : List Expr) : Unadded n (evalParts scope es) := by
  match es with
  | [] =>
      rw [evalParts]
      exact blind_pure ""
  | e :: rest =>
      rw [evalParts]
      refine (unadded_eval e).bind fun v => (unadded_current v).bind fun _ =>
        (unadded_lift _).bind fun s => ?_
      split
      · exact unadded_forbid _
      · exact (unadded_evalParts rest).map _

end

end Expr

/-- The value of a source does not tell how many values a caller added. -/
theorem Expression.unadded_evaluate {n : Nat} (source : String) (scope : List (Value × Value)) :
    Blind (Objects.withAdded n) (evaluate source scope) := by
  intro o
  simp only [evaluate, Expr.evaluate]
  cases Expr.statementOf source with
  | error f => rfl
  | ok e =>
      have same := Expr.unadded_eval (n := n) scope e ⟨0, [], [], o⟩
      simp only [Expr.EvalState.withAdded] at same
      simp only [same]
      cases Expr.eval scope e ⟨0, [], [], o⟩ with
      | ok v s => simp only [changed, Expr.EvalState.withAdded, Objects.refresh_withAdded]
      | error f s => rfl

end Workflow
