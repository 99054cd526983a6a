import Workflow.Template.Check
import Workflow.Template.TextFilter

/-!
# Tests

What a template can ask about a value.
-/

namespace Workflow

namespace Template

/-- Whether the text of a value is cased in one way only. -/
def casedAs (wanted other : Char -> Bool) (v : Value) : Outcome Bool := do
  .ok (Value.allCased wanted other (<- plainText v).toList)

/-- Equality, which asks about values that have to exist. -/
def equalValues (v w : Value) : Outcome Bool := do
  Value.strictUse v
  Value.strictUse w
  .ok (v.equal w)

/-- Order, which asks about values that have to exist. -/
def relatedValues (r : Relation) (v w : Value) : Outcome Bool := do
  Value.presentUse v
  Value.presentUse w
  Value.related r v w

/-- Whether a value is one of some items; those that are compared with it have to exist. -/
def isAmongPresent (v : Value) : List Value -> Outcome Bool
  | [] => .ok false
  | x :: rest => do
      Value.strictUse v
      Value.strictUse x
      if Value.same x v then .ok true else isAmongPresent v rest

/-- Whether a value is among the items of another. -/
def isMember (v container : Value) : Outcome Bool := do
  Value.strictUse container
  match container.bare with
  | .list xs => isAmongPresent v xs
  | .tuple xs => isAmongPresent v xs
  | .str _ => Value.member v container
  | .markup _ => Value.member v container
  | _ => do
      Value.strictUse v
      Value.member v container

/-- Whether a value can be called. -/
def isCallable : Value -> Bool
  | .function _ => true
  | .converter _ => true
  | .method .. => true
  | .slot .template _ => true
  | .slot .caller _ => true
  | .slot .loop _ => true
  | .slot .joiner _ => true
  | .undefined .. => true
  | _ => false

/-- Whether a value has a length and items under keys. -/
def isSequence (v : Value) : Bool :=
  match v.bare with
  | .str _ => true
  | .markup _ => true
  | .bytes _ => true
  | .list _ => true
  | .tuple _ => true
  | .dict _ => true
  | .sealed _ => true
  | .range .. => true
  | .undefined _ .lenient => true
  | _ => false

/-- Whether items can be had from a value. -/
def isIterable (v : Value) : Outcome Bool := do
  Value.strictUse v
  match v with
  | .stream .. => .ok true
  | .slot .loop _ => .ok true
  | v => .ok (match v.items with
      | .ok _ => true
      | .error _ => false)

/-- Whether a value is a number; truth values are. -/
def isNumber (v : Value) : Bool :=
  match v.bare with
  | .float _ => true
  | .complex .. => true
  | v => v.asInt?.isSome

/-- Whether two values are one and the same, as far as values without a place tell. -/
def isSame (v w : Value) : Bool :=
  Value.sameMark v w || match v, w with
    | .null, .null => true
    | .bool a, .bool b => a == b
    | .int a, .int b => a == b
    | .str a, .str b => a == b
    | .slot _ i, .slot _ j => i == j
    | .stream _ i, .stream _ j => i == j
    | _, _ => false

/-- The remainder of a value by another compared with a number. -/
def remainderIs (v w : Value) (n : Int) : Outcome Bool := do
  Value.presentUse v
  Value.presentUse w
  let r <- Value.operate .rem v w
  .ok (r.equal (.int n))

/-- Apply a test that is known. -/
def applyTest (name : String) (v : Value) (a : Value.Arguments) : Outcome Bool := do
  let fname := "test_" ++ name
  let alone (b : Bool) : Outcome Bool := do
    let _ <- Signature.bind ⟨fname, 1, [], []⟩ a
    .ok b
  let other (f : Value -> Outcome Bool) : Outcome Bool := do
    let b <- Signature.bind ⟨fname, 1, ["other"], []⟩ a
    f (argument b 0 .null)
  match name with
  | "odd" => do let _ <- alone true; remainderIs v (.int 2) 1
  | "even" => do let _ <- alone true; remainderIs v (.int 2) 0
  | "divisibleby" => do
      let b <- Signature.bind ⟨fname, 1, ["num"], []⟩ a
      remainderIs v (argument b 0 .null) 0
  | "defined" => alone (match v with | .undefined .. => false | _ => true)
  | "undefined" => alone (match v with | .undefined .. => true | _ => false)
  | "filter" => alone ((v.asText?.map filterNames.contains).getD false)
  | "test" => alone ((v.asText?.map testNames.contains).getD false)
  | "none" => alone (match v with | .null => true | _ => false)
  | "boolean" => alone (match v with | .bool _ => true | _ => false)
  | "true" => alone (match v with | .bool b => b | _ => false)
  | "false" => alone (match v with | .bool b => !b | _ => false)
  | "integer" => alone (match v with | .int _ => true | _ => false)
  | "float" => alone (match v.bare with | .float _ => true | _ => false)
  | "number" => alone (isNumber v)
  | "string" => alone v.asText?.isSome
  | "mapping" => alone v.entries?.isSome
  | "sequence" => alone (isSequence v)
  | "iterable" => do
      let _ <- alone true
      isIterable v
  | "callable" => alone (isCallable v)
  | "escaped" => alone (match v with | .markup _ => true | _ => false)
  | "lower" => do let _ <- alone true; casedAs Text.isLower Text.isUpper v
  | "upper" => do let _ <- alone true; casedAs Text.isUpper Text.isLower v
  | "sameas" => other fun w => .ok (isSame v w)
  | "in" => do
      let b <- Signature.bind ⟨fname, 1, ["seq"], []⟩ a
      isMember v (argument b 0 .null)
  | "eq" => other (equalValues v)
  | "==" => other (equalValues v)
  | "equalto" => other (equalValues v)
  | "ne" => other fun w => do .ok !(<- equalValues v w)
  | "!=" => other fun w => do .ok !(<- equalValues v w)
  | "lt" => other (relatedValues .lt v)
  | "<" => other (relatedValues .lt v)
  | "lessthan" => other (relatedValues .lt v)
  | "le" => other (relatedValues .le v)
  | "<=" => other (relatedValues .le v)
  | "gt" => other (relatedValues .gt v)
  | ">" => other (relatedValues .gt v)
  | "greaterthan" => other (relatedValues .gt v)
  | "ge" => other (relatedValues .ge v)
  | ">=" => other (relatedValues .ge v)
  | name =>
      let quoted := Text.quoted name
      .error (.other "TemplateRuntimeError" s!"No test named {quoted}.")

end Template

end Workflow
