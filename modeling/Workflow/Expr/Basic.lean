import Workflow.Value.Arithmetic

/-!
# Expressions

The abstract form of the expressions of conditions and transformations.
-/

namespace Workflow

/-- The operators of a comparison. -/
inductive CompareOp where
  | eq
  | ne
  | related (r : Relation)
  | is
  | isNot
  | isIn
  | notIn
  deriving Repr, DecidableEq

/-- What the items of a collection are bound to while a collection is built from it. -/
inductive Target where
  | name (id : String)
  | several (targets : List Target)
  /-- A form that no item can be bound to. -/
  | other (form : String)
  deriving Repr, Inhabited

/-- An expression. -/
inductive Expr where
  | const (v : Value)
  | name (id : String)
  | unary (op : UnaryOp) (operand : Expr)
  | binary (op : BinaryOp) (left right : Expr)
  /-- The operands of `and`. -/
  | conj (operands : List Expr)
  /-- The operands of `or`. -/
  | disj (operands : List Expr)
  /-- A chain of comparisons, each between neighbours. -/
  | compare (first : Expr) (rest : List (CompareOp × Expr))
  | choice (test yes no : Expr)
  /-- A call; a named argument without a name spreads a mapping. -/
  | call (callee : Expr) (args : List Expr) (named : List (Option String × Expr))
  | subscript (container key : Expr)
  | slice (lower upper step : Option Expr)
  | field (owner : Expr) (name : String)
  | list (items : List Expr)
  | tuple (items : List Expr)
  | set (items : List Expr)
  /-- A dictionary; an entry without a key spreads a mapping. -/
  | dict (entries : List (Option Expr × Expr))
  /-- A list of one item for each binding of the clauses: target, source and conditions. -/
  | listOf (item : Expr) (clauses : List (Target × Expr × List Expr))
  | dictOf (key value : Expr) (clauses : List (Target × Expr × List Expr))
  | starred (e : Expr)
  /-- A text put together from parts. -/
  | joined (parts : List Expr)
  /-- A value written by a format specification. -/
  | formatted (e : Expr) (spec : Option Expr)
  /-- A form that is read but cannot be evaluated, by its name. -/
  | excluded (form : String)
  deriving Repr, Inhabited

end Workflow
