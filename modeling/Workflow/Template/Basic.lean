import Workflow.Expr.Basic

/-!
# Templates

The abstract form of templates: terms, which have values, and statements, which write
text.
-/

namespace Workflow

namespace Template

/-- The arguments of a call, a filter or a test. -/
structure Call (α : Type) where
  positional : List α
  named : List (String × α)
  /-- A sequence of further positional arguments. -/
  spread : Option α
  /-- A mapping of further named arguments. -/
  spreadNamed : Option α
  deriving Repr, Inhabited

/-- A call without arguments. -/
def Call.empty : Call α :=
  ⟨[], [], none, none⟩

/-- What has a value. -/
inductive Term where
  | const (v : Value)
  | name (id : String)
  | unary (op : UnaryOp) (operand : Term)
  | binary (op : BinaryOp) (left right : Term)
  | conj (left right : Term)
  | disj (left right : Term)
  /-- The texts of the parts, one after another. -/
  | concat (parts : List Term)
  | compare (first : Term) (rest : List (CompareOp × Term))
  | choice (test yes : Term) (no : Option Term) (line : Nat)
  | call (callee : Term) (arguments : Call Term)
  /-- A part by name: an attribute, or else an item. -/
  | field (owner : Term) (name : String)
  /-- A part by key: an item, or else an attribute. -/
  | item (owner key : Term)
  | slice (owner : Term) (lower upper step : Option Term)
  | list (items : List Term)
  | tuple (items : List Term)
  | dict (entries : List (Term × Term))
  /-- A value put through a filter; the innermost filter of a block has no subject. -/
  | filter (subject : Option Term) (name : String) (arguments : Call Term) (line : Nat)
  | test (subject : Term) (name : String) (arguments : Call Term) (line : Nat)
  deriving Repr, Inhabited

mutual

/-- Whether a term has the same value wherever it stands. -/
def Term.isConstant : Term -> Bool
  | .const _ => true
  | .unary _ operand => operand.isConstant
  | .binary _ left right => left.isConstant && right.isConstant
  | .list items => Term.areConstant items
  | .tuple items => Term.areConstant items
  | .dict entries => Term.entriesAreConstant entries
  | _ => false

/-- Whether all of some terms are constant. -/
def Term.areConstant : List Term -> Bool
  | [] => true
  | e :: rest => e.isConstant && Term.areConstant rest

/-- Whether the keys and values of all entries are constant. -/
def Term.entriesAreConstant : List (Term × Term) -> Bool
  | [] => true
  | (k, v) :: rest =>
      k.isConstant && v.isConstant && Term.entriesAreConstant rest

end

/-- What a value is assigned to. -/
inductive Place where
  | name (id : String) (line : Nat)
  | several (places : List Place)
  /-- A part of a namespace. -/
  | field (owner name : String)
  deriving Repr, Inhabited

/-- A parameter of a macro, with its default. -/
abbrev Parameter := String × Option Term

/-- What writes text. -/
inductive Statement where
  | text (s : String)
  | print (items : List Term)
  | forEach (place : Place) (source : Term) (test : Option Term) (recursive : Bool)
      (body otherwise : List Statement)
  | cond (branches : List (Term × List Statement)) (otherwise : List Statement)
  | within (bindings : List (Place × Term)) (body : List Statement)
  | escaping (on : Term) (body : List Statement)
  | block (name : String) (inherits required : Bool) (body : List Statement) (line : Nat)
  | defineMacro (name : String) (parameters : List (String × Option Term))
      (body : List Statement) (line : Nat)
  | callWith (parameters : List (String × Option Term)) (callee : Term) (arguments : Call Term)
      (body : List Statement) (line : Nat)
  | filtered (filter : Term) (body : List Statement)
  | assign (place : Place) (value : Term)
  | assignText (place : Place) (filter : Option Term) (body : List Statement)
  /-- Another template is asked for. -/
  | load (template : Term)
  deriving Repr, Inhabited

end Template

end Workflow
