import Workflow.Proofs.Expr.Names

/-!
# The names that are read in an expression

The names of an expression are listed as they stand in it.  Two scopes that bind each of them
to the same value, or both leave it out, cannot be told apart by the expression: its value, its
failure and what it changes are the same.
-/

namespace Workflow

namespace Expr

mutual

/-- The names that are read in an expression, in order and with repetitions. -/
def names : Expr -> List String
  | .const _ => []
  | .name id => [id]
  | .unary _ e => names e
  | .binary _ l r => names l ++ names r
  | .conj es => namesOfEach es
  | .disj es => namesOfEach es
  | .compare first rest => names first ++ namesOfChain rest
  | .choice test yes no => names test ++ names yes ++ names no
  | .call callee args named => names callee ++ namesOfEach args ++ namesOfNamed named
  | .subscript container key => names container ++ names key
  | .slice lower upper step => namesOfOption lower ++ namesOfOption upper ++ namesOfOption step
  | .field owner _ => names owner
  | .list es => namesOfEach es
  | .tuple es => namesOfEach es
  | .set es => namesOfEach es
  | .dict entries => namesOfEntries entries
  | .listOf item clauses => names item ++ namesOfClauses clauses
  | .dictOf key value clauses => names key ++ names value ++ namesOfClauses clauses
  | .starred e => names e
  | .joined parts => namesOfEach parts
  | .formatted e spec => names e ++ namesOfOption spec
  | .excluded _ => []

/-- The names that are read in some expressions. -/
def namesOfEach : List Expr -> List String
  | [] => []
  | e :: rest => names e ++ namesOfEach rest

/-- The names that are read in the operands of a chain of comparisons. -/
def namesOfChain : List (CompareOp × Expr) -> List String
  | [] => []
  | (_, e) :: rest => names e ++ namesOfChain rest

/-- The names that are read in named arguments. -/
def namesOfNamed : List (Option String × Expr) -> List String
  | [] => []
  | (_, e) :: rest => names e ++ namesOfNamed rest

/-- The names that are read in the entries of a dictionary. -/
def namesOfEntries : List (Option Expr × Expr) -> List String
  | [] => []
  | (key, e) :: rest => namesOfOption key ++ names e ++ namesOfEntries rest

/-- The names that are read in clauses; what their targets bind is read where it is used. -/
def namesOfClauses : List (Target × Expr × List Expr) -> List String
  | [] => []
  | (_, source, conditions) :: rest =>
      names source ++ namesOfEach conditions ++ namesOfClauses rest

/-- The names that are read in an expression that may be left out. -/
def namesOfOption : Option Expr -> List String
  | none => []
  | some e => names e

end

variable {P : String -> Prop}

mutual

/-- An expression is within every set that has all its names. -/
theorem within_of_names (e : Expr) (h : ∀ id ∈ e.names, P id) : e.Within P := by
  match e with
  | .const v => exact .const v
  | .name id => exact .name (h id List.mem_cons_self)
  | .unary op e => exact .unary op (within_of_names e h)
  | .binary op l r =>
      simp only [names, List.forall_mem_append] at h
      exact .binary op (within_of_names l h.1) (within_of_names r h.2)
  | .conj es => exact .conj (each_within_of_names es h)
  | .disj es => exact .disj (each_within_of_names es h)
  | .compare first rest =>
      simp only [names, List.forall_mem_append] at h
      exact .compare (within_of_names first h.1) (chain_within_of_names rest h.2)
  | .choice test yes no =>
      simp only [names, List.forall_mem_append] at h
      obtain ⟨⟨htest, hyes⟩, hno⟩ := h
      exact .choice (within_of_names test htest) (within_of_names yes hyes) (within_of_names no hno)
  | .call callee args named =>
      simp only [names, List.forall_mem_append] at h
      obtain ⟨⟨hcallee, hargs⟩, hnamed⟩ := h
      exact .call (within_of_names callee hcallee) (each_within_of_names args hargs)
        (named_within_of_names named hnamed)
  | .subscript container key =>
      simp only [names, List.forall_mem_append] at h
      exact .subscript (within_of_names container h.1) (within_of_names key h.2)
  | .slice lower upper step =>
      simp only [names, List.forall_mem_append] at h
      obtain ⟨⟨hlower, hupper⟩, hstep⟩ := h
      exact .slice (option_within_of_names lower hlower) (option_within_of_names upper hupper)
        (option_within_of_names step hstep)
  | .field owner attr => exact .field attr (within_of_names owner h)
  | .list es => exact .list (each_within_of_names es h)
  | .tuple es => exact .tuple (each_within_of_names es h)
  | .set es => exact .set (each_within_of_names es h)
  | .dict entries =>
      obtain ⟨keys, values⟩ := entries_within_of_names entries h
      exact .dict keys values
  | .listOf item clauses =>
      simp only [names, List.forall_mem_append] at h
      obtain ⟨sources, conditions⟩ := clauses_within_of_names clauses h.2
      exact .listOf (within_of_names item h.1) sources conditions
  | .dictOf key value clauses =>
      simp only [names, List.forall_mem_append] at h
      obtain ⟨⟨hkey, hvalue⟩, hclauses⟩ := h
      obtain ⟨sources, conditions⟩ := clauses_within_of_names clauses hclauses
      exact .dictOf (within_of_names key hkey) (within_of_names value hvalue) sources conditions
  | .starred e => exact .starred (within_of_names e h)
  | .joined parts => exact .joined (each_within_of_names parts h)
  | .formatted e spec =>
      simp only [names, List.forall_mem_append] at h
      exact .formatted (within_of_names e h.1) (option_within_of_names spec h.2)
  | .excluded form => exact .excluded form

theorem each_within_of_names (es : List Expr) (h : ∀ id ∈ namesOfEach es, P id) :
    ∀ e ∈ es, e.Within P := by
  match es with
  | [] => exact List.forall_mem_nil _
  | e :: rest =>
      simp only [namesOfEach, List.forall_mem_append] at h
      exact List.forall_mem_cons.mpr ⟨within_of_names e h.1, each_within_of_names rest h.2⟩

theorem chain_within_of_names (rest : List (CompareOp × Expr))
    (h : ∀ id ∈ namesOfChain rest, P id) : ∀ p ∈ rest, p.2.Within P := by
  match rest with
  | [] => exact List.forall_mem_nil _
  | (op, e) :: rest =>
      simp only [namesOfChain, List.forall_mem_append] at h
      exact List.forall_mem_cons.mpr ⟨within_of_names e h.1, chain_within_of_names rest h.2⟩

theorem named_within_of_names (named : List (Option String × Expr))
    (h : ∀ id ∈ namesOfNamed named, P id) : ∀ p ∈ named, p.2.Within P := by
  match named with
  | [] => exact List.forall_mem_nil _
  | (keyword, e) :: rest =>
      simp only [namesOfNamed, List.forall_mem_append] at h
      exact List.forall_mem_cons.mpr ⟨within_of_names e h.1, named_within_of_names rest h.2⟩

theorem entries_within_of_names (entries : List (Option Expr × Expr))
    (h : ∀ id ∈ namesOfEntries entries, P id) :
    (∀ p ∈ entries, ∀ k ∈ p.1, k.Within P) ∧ ∀ p ∈ entries, p.2.Within P := by
  match entries with
  | [] => exact ⟨List.forall_mem_nil _, List.forall_mem_nil _⟩
  | (key, e) :: rest =>
      simp only [namesOfEntries, List.forall_mem_append] at h
      obtain ⟨⟨hkey, hvalue⟩, hrest⟩ := h
      obtain ⟨keys, values⟩ := entries_within_of_names rest hrest
      exact ⟨List.forall_mem_cons.mpr ⟨option_within_of_names key hkey, keys⟩,
        List.forall_mem_cons.mpr ⟨within_of_names e hvalue, values⟩⟩

theorem clauses_within_of_names (clauses : List (Target × Expr × List Expr))
    (h : ∀ id ∈ namesOfClauses clauses, P id) :
    (∀ c ∈ clauses, c.2.1.Within P) ∧ ∀ c ∈ clauses, ∀ e ∈ c.2.2, e.Within P := by
  match clauses with
  | [] => exact ⟨List.forall_mem_nil _, List.forall_mem_nil _⟩
  | (target, source, conditions) :: rest =>
      simp only [namesOfClauses, List.forall_mem_append] at h
      obtain ⟨⟨hsource, hconditions⟩, hrest⟩ := h
      obtain ⟨sources, others⟩ := clauses_within_of_names rest hrest
      exact ⟨List.forall_mem_cons.mpr ⟨within_of_names source hsource, sources⟩,
        List.forall_mem_cons.mpr ⟨each_within_of_names conditions hconditions, others⟩⟩

theorem option_within_of_names (o : Option Expr) (h : ∀ id ∈ namesOfOption o, P id) :
    ∀ e ∈ o, e.Within P := by
  match o with
  | none => simp
  | some e =>
      rintro _ ⟨⟩
      exact within_of_names e h

end

end Expr

namespace Expression

open Value (field?)

end Expression

end Workflow
