import Workflow.Expression

/-!
# The names of expressions

An expression reads its scope only through the names that are written in it.  Two scopes
that agree on these give the same value, the same failure and the same changes.
-/

namespace Workflow

namespace Expr

/-- All names of an expression are within a set. -/
inductive Within (P : String -> Prop) : Expr -> Prop where
  | const (v : Value) : Within P (.const v)
  | name {id : String} : P id -> Within P (.name id)
  | unary (op : UnaryOp) {e : Expr} : Within P e -> Within P (.unary op e)
  | binary (op : BinaryOp) {l r : Expr} : Within P l -> Within P r -> Within P (.binary op l r)
  | conj {es : List Expr} : (∀ e ∈ es, Within P e) -> Within P (.conj es)
  | disj {es : List Expr} : (∀ e ∈ es, Within P e) -> Within P (.disj es)
  | compare {first : Expr} {rest : List (CompareOp × Expr)} :
      Within P first -> (∀ p ∈ rest, Within P p.2) -> Within P (.compare first rest)
  | choice {test yes no : Expr} :
      Within P test -> Within P yes -> Within P no -> Within P (.choice test yes no)
  | call {callee : Expr} {args : List Expr} {named : List (Option String × Expr)} :
      Within P callee -> (∀ e ∈ args, Within P e) -> (∀ p ∈ named, Within P p.2) ->
        Within P (.call callee args named)
  | subscript {container key : Expr} :
      Within P container -> Within P key -> Within P (.subscript container key)
  | slice {lower upper step : Option Expr} :
      (∀ e ∈ lower, Within P e) -> (∀ e ∈ upper, Within P e) -> (∀ e ∈ step, Within P e) ->
        Within P (.slice lower upper step)
  | field {owner : Expr} (attr : String) : Within P owner -> Within P (.field owner attr)
  | list {es : List Expr} : (∀ e ∈ es, Within P e) -> Within P (.list es)
  | tuple {es : List Expr} : (∀ e ∈ es, Within P e) -> Within P (.tuple es)
  | set {es : List Expr} : (∀ e ∈ es, Within P e) -> Within P (.set es)
  | dict {entries : List (Option Expr × Expr)} :
      (∀ p ∈ entries, ∀ k ∈ p.1, Within P k) -> (∀ p ∈ entries, Within P p.2) ->
        Within P (.dict entries)
  | listOf {item : Expr} {clauses : List (Target × Expr × List Expr)} :
      Within P item -> (∀ c ∈ clauses, Within P c.2.1) ->
        (∀ c ∈ clauses, ∀ e ∈ c.2.2, Within P e) -> Within P (.listOf item clauses)
  | dictOf {key value : Expr} {clauses : List (Target × Expr × List Expr)} :
      Within P key -> Within P value -> (∀ c ∈ clauses, Within P c.2.1) ->
        (∀ c ∈ clauses, ∀ e ∈ c.2.2, Within P e) -> Within P (.dictOf key value clauses)
  | starred {e : Expr} : Within P e -> Within P (.starred e)
  | joined {parts : List Expr} : (∀ e ∈ parts, Within P e) -> Within P (.joined parts)
  | formatted {e : Expr} {spec : Option Expr} :
      Within P e -> (∀ s ∈ spec, Within P s) -> Within P (.formatted e spec)
  | excluded (form : String) : Within P (.excluded form)

/-- Two scopes give the same value to every name of a set. -/
def AgreeOn (P : String -> Prop) (s t : List (Value × Value)) : Prop :=
  ∀ id, P id -> Value.field? s id = Value.field? t id

variable {P : String -> Prop} {s t : List (Value × Value)}

theorem nameValue_agree (agree : AgreeOn P s t) {id : String} (h : P id) :
    nameValue s id = nameValue t id := by
  simp only [nameValue, agree id h]

mutual

/-- An expression has the same value in scopes that agree on its names. -/
theorem eval_agree (agree : AgreeOn P s t) (e : Expr) (h : e.Within P) : eval s e = eval t e := by
  match e, h with
  | .const v, _ => simp only [eval]
  | .name id, .name hid => simp only [eval, nameValue_agree agree hid]
  | .unary op e, .unary _ he => simp only [eval, eval_agree agree e he]
  | .binary op l r, .binary _ hl hr =>
      simp only [eval, eval_agree agree l hl, eval_agree agree r hr]
  | .conj es, .conj hes => simp only [eval, evalConj_agree agree _ es hes]
  | .disj es, .disj hes => simp only [eval, evalDisj_agree agree _ es hes]
  | .compare first rest, .compare hfirst hrest =>
      simp only [eval, eval_agree agree first hfirst, evalChain_agree agree _ _ _ rest hrest]
  | .choice test yes no, .choice htest hyes hno =>
      simp only [eval, eval_agree agree test htest, eval_agree agree yes hyes,
        eval_agree agree no hno]
  | .call callee args named, .call hcallee hargs hnamed =>
      have hf := eval_agree agree callee hcallee
      have ha := evalEach_agree agree args hargs
      have hn := evalNamed_agree agree named hnamed
      cases callee <;> simp only [eval, ha, hn] at hf ⊢
      simp only [hf]
  | .subscript container key, .subscript hcontainer hkey =>
      have hv := eval_agree agree container hcontainer
      have hk := eval_agree agree key hkey
      cases key with
      | slice lower upper step =>
          cases hkey with
          | slice hl hu hs =>
              simp only [eval, hv, evalOptional_agree agree lower hl,
                evalOptional_agree agree upper hu, evalOptional_agree agree step hs]
      | _ => simp only [eval, hv] at hk ⊢ <;> simp only [hk]
  | .slice lower upper step, .slice hl hu hs =>
      simp only [eval, evalOptional_agree agree lower hl, evalOptional_agree agree upper hu,
        evalOptional_agree agree step hs]
  | .field owner attr, .field _ howner => simp only [eval, eval_agree agree owner howner]
  | .list es, .list hes => simp only [eval, evalItems_agree agree es hes]
  | .tuple es, .tuple hes => simp only [eval, evalEach_agree agree es hes]
  | .set es, .set hes => simp only [eval, evalSet_agree agree _ es hes]
  | .dict entries, .dict hk hv => simp only [eval, evalEntries_agree agree _ entries hk hv]
  | .listOf item clauses, .listOf hitem hsource hconditions =>
      simp only [eval, eval_agree agree item hitem,
        evalClauses_agree agree _ _ clauses hsource hconditions]
  | .dictOf key value clauses, .dictOf hkey hvalue hsource hconditions =>
      simp only [eval, eval_agree agree key hkey, eval_agree agree value hvalue,
        evalClauses_agree agree _ _ clauses hsource hconditions]
  | .starred e, _ => simp only [eval]
  | .joined parts, .joined hparts => simp only [eval, evalParts_agree agree parts hparts]
  | .formatted e none, .formatted he _ => simp only [eval, eval_agree agree e he]
  | .formatted e (some spec), .formatted he hspec =>
      simp only [eval, eval_agree agree e he, eval_agree agree spec (hspec spec rfl)]
  | .excluded form, _ => simp only [eval]

theorem evalEach_agree (agree : AgreeOn P s t) (es : List Expr) (h : ∀ e ∈ es, e.Within P) :
    evalEach s es = evalEach t es := by
  match es with
  | [] => simp only [evalEach]
  | e :: rest =>
      have he := eval_agree agree e (h e List.mem_cons_self)
      have hrest := evalEach_agree agree rest fun e he => h e (List.mem_cons_of_mem _ he)
      simp only [evalEach, he, hrest]

theorem evalItems_agree (agree : AgreeOn P s t) (es : List Expr) (h : ∀ e ∈ es, e.Within P) :
    evalItems s es = evalItems t es := by
  match es with
  | [] => simp only [evalItems]
  | e :: rest =>
      have hrest := evalItems_agree agree rest fun e he => h e (List.mem_cons_of_mem _ he)
      have he := eval_agree agree e (h e List.mem_cons_self)
      cases e with
      | starred e =>
          cases h _ List.mem_cons_self with
          | starred hinner => simp only [evalItems, eval_agree agree e hinner, hrest]
      | _ => simp only [evalItems, he, hrest]

theorem evalSet_agree (agree : AgreeOn P s t) (acc : List Value) (es : List Expr)
    (h : ∀ e ∈ es, e.Within P) : evalSet s acc es = evalSet t acc es := by
  match es with
  | [] => simp only [evalSet]
  | e :: rest =>
      have he := eval_agree agree e (h e List.mem_cons_self)
      have hrest acc := evalSet_agree agree acc rest fun e he => h e (List.mem_cons_of_mem _ he)
      simp only [evalSet, he, hrest]

theorem evalEntries_agree (agree : AgreeOn P s t) (acc : List (Value × Value))
    (entries : List (Option Expr × Expr)) (hk : ∀ p ∈ entries, ∀ k ∈ p.1, k.Within P)
    (hv : ∀ p ∈ entries, p.2.Within P) : evalEntries s acc entries = evalEntries t acc entries := by
  match entries with
  | [] => simp only [evalEntries]
  | (none, e) :: rest =>
      have he := eval_agree agree e (hv _ List.mem_cons_self)
      have hrest acc := evalEntries_agree agree acc rest
        (fun p hp => hk p (List.mem_cons_of_mem _ hp)) fun p hp => hv p (List.mem_cons_of_mem _ hp)
      simp only [evalEntries, he, hrest]
  | (some k, e) :: rest =>
      have he := eval_agree agree e (hv _ List.mem_cons_self)
      have hkey := eval_agree agree k (hk _ List.mem_cons_self k rfl)
      have hrest acc := evalEntries_agree agree acc rest
        (fun p hp => hk p (List.mem_cons_of_mem _ hp)) fun p hp => hv p (List.mem_cons_of_mem _ hp)
      simp only [evalEntries, he, hkey, hrest]

theorem evalNamed_agree (agree : AgreeOn P s t) (named : List (Option String × Expr))
    (h : ∀ p ∈ named, p.2.Within P) : evalNamed s named = evalNamed t named := by
  match named with
  | [] => simp only [evalNamed]
  | (none, e) :: rest =>
      have he := eval_agree agree e (h _ List.mem_cons_self)
      simp only [evalNamed, he]
  | (some n, e) :: rest =>
      have he := eval_agree agree e (h _ List.mem_cons_self)
      have hrest := evalNamed_agree agree rest fun p hp => h p (List.mem_cons_of_mem _ hp)
      simp only [evalNamed, he, hrest]

theorem evalOptional_agree (agree : AgreeOn P s t) (o : Option Expr) (h : ∀ e ∈ o, e.Within P) :
    evalOptional s o = evalOptional t o := by
  match o with
  | none => simp only [evalOptional]
  | some e => simp only [evalOptional, eval_agree agree e (h e rfl)]

theorem evalConj_agree (agree : AgreeOn P s t) (last : Value) (es : List Expr)
    (h : ∀ e ∈ es, e.Within P) : evalConj s last es = evalConj t last es := by
  match es with
  | [] => simp only [evalConj]
  | e :: rest =>
      have he := eval_agree agree e (h e List.mem_cons_self)
      have hrest last := evalConj_agree agree last rest fun e he => h e (List.mem_cons_of_mem _ he)
      simp only [evalConj, he, hrest]

theorem evalDisj_agree (agree : AgreeOn P s t) (last : Value) (es : List Expr)
    (h : ∀ e ∈ es, e.Within P) : evalDisj s last es = evalDisj t last es := by
  match es with
  | [] => simp only [evalDisj]
  | e :: rest =>
      have he := eval_agree agree e (h e List.mem_cons_self)
      have hrest last := evalDisj_agree agree last rest fun e he => h e (List.mem_cons_of_mem _ he)
      simp only [evalDisj, he, hrest]

theorem evalChain_agree (agree : AgreeOn P s t) (left : Expr) (v : Value) (holds : Bool)
    (rest : List (CompareOp × Expr)) (h : ∀ p ∈ rest, p.2.Within P) :
    evalChain s left v holds rest = evalChain t left v holds rest := by
  match rest with
  | [] => simp only [evalChain]
  | (op, e) :: rest =>
      have he := eval_agree agree e (h _ List.mem_cons_self)
      have hrest v b := evalChain_agree agree e v b rest fun p hp => h p (List.mem_cons_of_mem _ hp)
      simp only [evalChain, he, hrest]

theorem evalClauses_agree (agree : AgreeOn P s t)
    (yield : List (Value × Value) -> EvalM (List (Value × Value))) (acc : List (Value × Value))
    (clauses : List (Target × Expr × List Expr)) (hsource : ∀ c ∈ clauses, c.2.1.Within P)
    (hconditions : ∀ c ∈ clauses, ∀ e ∈ c.2.2, e.Within P) :
    evalClauses s yield acc clauses = evalClauses t yield acc clauses := by
  match clauses with
  | [] => simp only [evalClauses]
  | (target, source, conditions) :: rest =>
      have hs := eval_agree agree source (hsource _ List.mem_cons_self)
      have hc := evalConditions_agree agree conditions (hconditions _ List.mem_cons_self)
      have hrest acc := evalClauses_agree agree yield acc rest
        (fun c hm => hsource c (List.mem_cons_of_mem _ hm))
        fun c hm => hconditions c (List.mem_cons_of_mem _ hm)
      simp only [evalClauses, hs, hc, hrest]

theorem evalConditions_agree (agree : AgreeOn P s t) (es : List Expr)
    (h : ∀ e ∈ es, e.Within P) : evalConditions s es = evalConditions t es := by
  match es with
  | [] => simp only [evalConditions]
  | e :: rest =>
      have he := eval_agree agree e (h e List.mem_cons_self)
      have hrest := evalConditions_agree agree rest fun e he => h e (List.mem_cons_of_mem _ he)
      simp only [evalConditions, he, hrest]

theorem evalParts_agree (agree : AgreeOn P s t) (es : List Expr) (h : ∀ e ∈ es, e.Within P) :
    evalParts s es = evalParts t es := by
  match es with
  | [] => simp only [evalParts]
  | e :: rest =>
      have he := eval_agree agree e (h e List.mem_cons_self)
      have hrest := evalParts_agree agree rest fun e he => h e (List.mem_cons_of_mem _ he)
      simp only [evalParts, he, hrest]

end

/-- The value of a source depends on the names of the expression it is read as. -/
theorem evaluate_agree (agree : AgreeOn P s t) {source : String}
    (h : ∀ e, statementOf source = .ok e -> e.Within P) :
    Expression.evaluate source s = Expression.evaluate source t := by
  funext o
  unfold Expression.evaluate evaluate
  cases hs : statementOf source with
  | error f => rfl
  | ok e => simp only [eval_agree agree e (h e hs)]

end Expr

end Workflow
