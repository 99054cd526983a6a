import Workflow.Expr.Statement
import Workflow.Value.Function
import Workflow.Value.Replacement
import Workflow.Value.Traversal

/-!
# Evaluation of expressions

An expression is evaluated in a scope of names.  Only the listed functions can be
called by name, private attributes cannot be read, and results are kept below fixed
sizes.  Reading an attribute of a dictionary gives the value under that key when there
is one.  Methods change the values they belong to, also those of the scope.
-/

namespace Workflow

namespace Expr

/-- Why an expression has no value. -/
inductive EvalFault where
  /-- A name that neither the scope nor the functions know. -/
  | unknownName (name : String)
  /-- An attribute or key that does not exist. -/
  | noAttribute (name : String)
  /-- A call of a name that is not a function. -/
  | unknownFunction (name : String)
  /-- A form or a size that is not allowed. -/
  | forbidden (text : String)
  /-- An operation on values failed. -/
  | fault (f : Fault)
  deriving Repr, Inhabited

/-- The longest text or collection an expression may build. -/
def maxLength : Nat := 100000

/-- The most bindings that collections built from others may go through. -/
def maxBindings : Nat := 10000

/-- The largest operand of a power, in absolute value. -/
def maxPower : Int := 4000000

/-- The largest number of places of a shift. -/
def maxShift : Int := 10000

/-- The largest number that may be shifted: the largest finite double. -/
def maxShifted : Int := (Nat.pow 2 53 - 1 : Nat) * (Nat.pow 2 971 : Nat)

/-- The functions that can be called by name. -/
def functionNames : List String :=
  ["len", "abs", "min", "max", "round", "sum", "sorted", "lower", "upper"]

/-- The types that can be called by name. -/
def converterNames : List String :=
  ["str", "int", "float", "bool", "list", "tuple", "dict", "set"]

/-- The function or type of a name. -/
def callable? (name : String) : Option Value :=
  if functionNames.contains name then some (.function name)
  else if converterNames.contains name then some (.converter name)
  else none

/-- Attributes that cannot be read from a value. -/
def forbiddenAttributes : List String :=
  ["format", "format_map", "mro", "tb_frame", "gi_frame", "ag_frame", "cr_frame", "exec"]

/-- Where an evaluation stands. -/
structure EvalState where
  /-- How many bindings collections built from others have gone through. -/
  count : Nat
  /-- The names bound by the collections being built, the innermost first. -/
  frames : List (List (String × Value))
  /-- The values of the names of the scope that were read so far, with their marks. -/
  seen : List (String × Value)
  objects : Objects

/-- An evaluation goes through states and may fail. -/
abbrev EvalM := EStateM EvalFault EvalState

/-- The outcome of an operation on values, as an evaluation. -/
def lift (r : Outcome α) : EvalM α :=
  match r with
  | .ok x => pure x
  | .error f => throw (.fault f)

/-- What reads and changes values, as an evaluation. -/
def perform (action : Action α) : EvalM α := fun s =>
  match action s.objects with
  | .ok x objects => .ok x { s with objects }
  | .error f objects => .error (.fault f) { s with objects }

/-- A value with all that it holds by now. -/
def current (v : Value) : EvalM Value :=
  perform (Action.current v)

/-- A value with what it holds by now, which is not looked into. -/
def look (v : Value) : EvalM Value :=
  perform (Action.look v)

/-- A new value, which can be changed from now on. -/
def make (r : Outcome Value) : EvalM Value :=
  perform (Action.make r)

/-- Fail because a form or a size is not allowed. -/
def forbid (text : String) : EvalM α :=
  throw (.forbidden text)

/-- The length of a value that has one. -/
def length? (v : Value) : Option Nat :=
  match v.length with
  | .ok n => some n
  | .error _ => none

/-- The length of an operand; a type that describes collections only seems to have one. -/
def operandLength? (v : Value) : EvalM (Option Nat) :=
  match v with
  | .converter kind =>
      if ["str", "list", "tuple", "dict", "set"].contains kind then
        throw (.fault (.noLength "type"))
      else pure none
  | v => pure (length? v)

/-- Refuse a repetition that would become too long. -/
def guardRepeat (times sequence : Value) : EvalM Unit := do
  match <- operandLength? sequence with
  | none => pure ()
  | some n => do
      let total <- lift (Value.operate .mul times (.int n))
      if (<- lift (Value.related .gt total (.int maxLength))) then
        forbid "Sorry, I will not evaluate something that long."

/-- Whether the absolute value of a number exceeds a limit. -/
def exceeds (v : Value) (limit : Int) : EvalM Bool := do
  lift (Value.related .gt (<- lift (Value.absolute v)) (.int limit))

/-- Whether a value has a length, or seems to. -/
def seemsSized (v : Value) : Bool :=
  match v with
  | .converter kind => ["str", "list", "tuple", "dict", "set"].contains kind
  | v => (length? v).isSome

/-- Apply a binary operator within the limits. -/
def applyBinary (op : BinaryOp) (v w : Value) : EvalM Value := do
  let v <- current v
  let w <- current w
  let refuse (sign : String) : EvalM Value := do
    forbid s!"Sorry! I don't want to evaluate {(<- lift v.textOf)} {sign} {(<- lift w.textOf)}"
  match op with
  | .add => do
      if seemsSized v && seemsSized w then
        let m := (<- operandLength? v).getD 0
        let n := (<- operandLength? w).getD 0
        if maxLength < m + n then
          forbid "Sorry, adding those two together would make something too long."
      make (Value.operate .add v w)
  | .mul => do
      guardRepeat w v
      guardRepeat v w
      make (Value.operate .mul v w)
  | .pow => do
      if (<- exceeds v maxPower) then refuse "**"
      else if (<- exceeds w maxPower) then refuse "**"
      else make (Value.operate .pow v w)
  | .shiftLeft => do
      if (<- exceeds w maxShift) then refuse "<<"
      else if (<- exceeds v maxShifted) then refuse "<<"
      else make (Value.operate .shiftLeft v w)
  | .shiftRight => do
      if (<- exceeds w maxShift) then refuse ">>"
      else if (<- exceeds v maxShifted) then refuse ">>"
      else make (Value.operate .shiftRight v w)
  | op => make (Value.operate op v w)

/-- Whether two expressions read the same place of the scope. -/
def samePlace : Expr -> Expr -> Bool
  | name a, name b => a == b
  | field e a, field f b => a == b && samePlace e f
  | field e a, subscript f (const (.str b)) => a == b && samePlace e f
  | subscript e (const (.str a)), field f b => a == b && samePlace e f
  | subscript e (const (.str a)), subscript f (const (.str b)) => a == b && samePlace e f
  | _, _ => false

/-- Whether two values are one: equal values of one type that cannot be changed. -/
def identical (v w : Value) : Bool :=
  match v, w with
  | .null, .null => true
  | .bool a, .bool b => a == b
  | .int a, .int b => a == b
  | .str a, .str b => a == b
  | .function f, .function g => f == g
  | .converter f, .converter g => f == g
  | .tuple [], .tuple [] => true
  | .foreign "ellipsis", .foreign "ellipsis" => true
  | _, _ => false

/-- Whether two operands are one and the same, `same` saying whether both read one place. -/
def isSame (same : Bool) (v w : Value) : Bool :=
  match v.mark?, w.mark? with
  | some m, some n => m == n
  | none, none =>
      match v with
      | .method .. => false
      | v => same || identical v w
  | _, _ => false

/-- Apply a comparison; `same` says whether both operands read one place. -/
def applyComparison (op : CompareOp) (same : Bool) (v w : Value) : EvalM Bool := do
  let v <- current v
  let w <- current w
  match op with
  | .eq => pure (Value.equal v w)
  | .ne => pure (!Value.equal v w)
  | .related r => lift (Value.related r v w)
  | .is => pure (isSame same v w)
  | .isNot => pure (!isSame same v w)
  | .isIn => lift (Value.member v w)
  | .notIn => do pure (!(<- lift (Value.member v w)))

/-- What an attribute of a value reads, once its name is allowed; a type of collections takes any name for the types of its items. -/
def readField (v : Value) (name : String) : EvalM Value :=
  match Value.attribute? v name, v with
  | some w, _ => make (.ok w)
  | none, .converter kind =>
      if Value.genericTypes.contains kind then pure (.foreign "types.GenericAlias")
      else throw (.noAttribute name)
  | none, _ => throw (.noAttribute name)

/-- Whether a text begins with another. -/
def beginsWith (head s : String) : Bool :=
  head.toList.isPrefixOf s.toList

/-- Whether an attribute is private by its name. -/
def isPrivate (name : String) : Bool :=
  beginsWith "_" name || beginsWith "func_" name

/-- The complaint about a private attribute. -/
def privateComplaint (name : String) : String :=
  s!"Sorry, access to __attributes  or func_ attributes is not available. ({name})"

/-- Refuse attributes that may not be read. -/
def guardAttribute (name : String) : EvalM Unit :=
  if isPrivate name then forbid (privateComplaint name)
  else if forbiddenAttributes.contains name then
    forbid s!"Sorry, this method is not available. ({name})"
  else pure ()

/-! ## Names and bindings -/

/-- Read the value of a name of the scope for the first time; what can be changed in it gets marks. -/
def firstSeen (id : String) (v : Value) : EvalM Value := fun s =>
  let (v, objects) := s.objects.adopt v
  .ok v { s with objects, seen := (id, v) :: s.seen }

/-- The value of a name: bound by a collection being built, of the scope, or a function. -/
def nameValue (scope : List (Value × Value)) (id : String) : EvalM Value := do
  let s <- get
  match (s.frames.findSome? fun frame => frame.lookup id).orElse fun _ => s.seen.lookup id with
  | some v => pure v
  | none =>
      match Value.field? scope id, callable? id with
      | some v, _ => firstSeen id v
      | none, some f => pure f
      | none, none => throw (.unknownName id)

/-- Open a frame for the names of a collection that is built from others. -/
def openFrame : EvalM Unit :=
  modify fun s => { s with frames := [] :: s.frames }

/-- Close the innermost frame. -/
def closeFrame : EvalM Unit :=
  modify fun s => { s with frames := s.frames.drop 1 }

/-- Bind a name in the innermost frame. -/
def bindName (id : String) (v : Value) : EvalM Unit :=
  modify fun s =>
    match s.frames with
    | frame :: rest => { s with frames := ((id, v) :: frame.filter fun (n, _) => n != id) :: rest }
    | [] => s

mutual

/-- Bind an item to a target; surplus parts of the target or the item are left alone. -/
def bindTarget (t : Target) (v : Value) : EvalM Unit :=
  match t with
  | .name id => bindName id v
  | .several ts => do bindTargets ts (<- lift (<- look v).items)
  | .other form => throw (.fault (.noAttribute form "elts"))

/-- Bind items to targets in pairs. -/
def bindTargets (ts : List Target) (vs : List Value) : EvalM Unit :=
  match ts, vs with
  | t :: ts, v :: vs => do
      bindTarget t v
      bindTargets ts vs
  | _, _ => pure ()

end

/-- Count a binding, of which there may only be so many. -/
def countBinding : EvalM Unit := do
  if maxBindings < (<- get).count + 1 then
    forbid "Comprehension generates too many elements"
  else modify fun s => { s with count := s.count + 1 }

/-- Do something with each item that is left to go through; the fuel bounds their number. -/
def forEach (body : β -> Value -> EvalM β) : Nat -> β -> Traversal -> EvalM β
  | 0, acc, _ => pure acc
  | fuel + 1, acc, t => do
      match <- lift (t.next (<- get).objects) with
      | none => pure acc
      | some (item, rest) => do
          countBinding
          forEach body fuel (<- body acc item) rest

/-! ## Formatted values -/

/-- The value a part of a name reads in a format specification. -/
def specPart (v : Value) (name : String) : Outcome Value :=
  match Value.attribute? v name with
  | some w => .ok w
  | none => .error (.noAttribute v.kind name)

/-- How the fields in a format specification find their values: the value written is the only argument. -/
def specRules (v : Value) : Value.FieldRules where
  positional := [v]
  named := fun _ => none
  byFirst := true
  absent := fun n =>
    .other "IndexError" s!"Replacement index {n} out of range for positional args tuple"
  mixed := fun byHand =>
    .badValue (if byHand then
        "cannot switch from automatic field numbering to manual field specification"
      else "cannot switch from manual field specification to automatic field numbering")
  partByName := specPart
  partByKey := Value.subscript
  write := Value.format

/-- A value written by a format specification. -/
def formatValue (v : Value) (spec : String) : EvalM Value := do
  let v <- current v
  pure (.str (<- lift (Value.replaceFields (specRules v) ("\x7b:" ++ spec ++ "\x7d"))))

/-- Call a function, a type or a method. -/
def callValue (f : Value) (positional : List Value) (named : List (String × Value)) :
    EvalM Value := do
  let positional <- positional.mapM current
  let named <- named.mapM fun (n, v) => do pure (n, (<- current v))
  perform do Action.own (<- Value.call f ⟨positional, named⟩)

/-- A slice among the keys of a subscript, as a value of which only the type matters. -/
def sliceMark : Value := .foreign "slice"

mutual

/-- The value of an expression in a scope. -/
def eval (scope : List (Value × Value)) : Expr -> EvalM Value
  | const v =>
      match length? v with
      | some n =>
          if maxLength < n then
            forbid s!"Literal in statement is too long! ({n}, when {maxLength} is max)"
          else pure v
      | none => pure v
  | name id => nameValue scope id
  | unary op e => do
      let v <- current (<- eval scope e)
      make (Value.unary op v)
  | binary op l r =>
      match op with
      | .matMul => forbid "Operator '@' does not exist"
      | op => do
          let v <- eval scope l
          let w <- eval scope r
          applyBinary op v w
  | conj es => evalConj scope (.bool false) es
  | disj es => evalDisj scope (.bool false) es
  | compare first rest => do
      let v <- eval scope first
      evalChain scope first v true rest
  | choice test yes no => do
      let t <- look (<- eval scope test)
      if t.truthy then eval scope yes else eval scope no
  | call callee args named =>
      match callee with
      | field .. => do
          let f <- eval scope callee
          let positional <- evalEach scope args
          let named <- evalNamed scope named
          callValue f positional named
      | name id =>
          match callable? id with
          | none => throw (.unknownFunction id)
          | some f => do
              let positional <- evalEach scope args
              let named <- evalNamed scope named
              callValue f positional named
      | _ => forbid "Lambda Functions not implemented"
  | subscript container key => do
      let v <- eval scope container
      match key with
      | slice lower upper step => do
          let l <- evalOptional scope lower
          let u <- evalOptional scope upper
          let s <- evalOptional scope step
          make (Value.slice (<- look v) ⟨l, u, s⟩)
      | key => do
          let k <- current (<- eval scope key)
          let v <- look v
          match v.entries?, k with
          | some _, .tuple ks =>
              if ks.any fun x => match x with
                | .foreign "slice" => true
                | _ => false
              then throw (.fault (.unhashable "slice"))
              else lift (Value.subscript v k)
          | _, _ => make (Value.subscript v k)
  | slice lower upper step => do
      let _ <- evalOptional scope lower
      let _ <- evalOptional scope upper
      let _ <- evalOptional scope step
      pure sliceMark
  | field owner attr =>
      -- a private name is refused before its owner is evaluated
      if beginsWith "_" attr then forbid (privateComplaint attr)
      else do
        let v <- look (<- eval scope owner)
        match Value.get? v attr with
        | some w => pure w
        | none => do
            guardAttribute attr
            -- the owner is evaluated anew where it is not a dictionary with this key
            readField (<- look (<- eval scope owner)) attr
  | list es => do make (.ok (.list (<- evalItems scope es)))
  | tuple es => do pure (.tuple (<- evalEach scope es))
  | set es => do
      let xs <- evalSet scope [] es
      make (Value.makeSet xs)
  | dict entries => do make (.ok (.dict (<- evalEntries scope [] entries)))
  | listOf item clauses => do
      openFrame
      let xs <- evalClauses scope
        (fun acc => do pure ((.null, (<- eval scope item)) :: acc)) [] clauses
      closeFrame
      make (.ok (.list (xs.reverse.map (·.2))))
  | dictOf key value clauses => do
      openFrame
      let entries <- evalClauses scope
        (fun acc => do
          let v <- eval scope value
          let k <- lift (Value.hashable (<- current (<- eval scope key)))
          pure (Value.insert acc k v)) [] clauses
      closeFrame
      make (.ok (.dict entries))
  | starred _ => forbid "Sorry, Starred is not available in this evaluator"
  | joined parts => do pure (.str (<- evalParts scope parts))
  | formatted e spec =>
      match spec with
      | none => eval scope e
      | some s => do
          let pattern <- lift (<- eval scope s).textOf
          formatValue (<- eval scope e) pattern
  | excluded form => forbid s!"Sorry, {form} is not available in this evaluator"

/-- The values of expressions none of which spreads a collection. -/
def evalEach (scope : List (Value × Value)) : List Expr -> EvalM (List Value)
  | [] => pure []
  | e :: rest => do
      let v <- eval scope e
      pure (v :: (<- evalEach scope rest))

/-- The items of a list display, collections being spread where they are starred. -/
def evalItems (scope : List (Value × Value)) : List Expr -> EvalM (List Value)
  | [] => pure []
  | starred e :: rest => do
      let xs <- lift (<- look (<- eval scope e)).items
      pure (xs ++ (<- evalItems scope rest))
  | e :: rest => do
      let v <- eval scope e
      pure (v :: (<- evalItems scope rest))

/-- The items of a set display, each of which must be able to be an item. -/
def evalSet (scope : List (Value × Value)) (acc : List Value) :
    List Expr -> EvalM (List Value)
  | [] => pure acc
  | e :: rest => do
      let v <- lift (Value.hashable (<- current (<- eval scope e)))
      evalSet scope (Value.addItem acc v) rest

/-- The entries of a dictionary display; a value is evaluated before its key. -/
def evalEntries (scope : List (Value × Value)) (acc : List (Value × Value)) :
    List (Option Expr × Expr) -> EvalM (List (Value × Value))
  | [] => pure acc
  | (none, e) :: rest => do
      let v <- current (<- eval scope e)
      let entries <- lift (Value.updateEntries (.of [v]) "update")
      evalEntries scope (Value.insertAll acc entries) rest
  | (some k, e) :: rest => do
      let v <- eval scope e
      let key <- lift (Value.hashable (<- current (<- eval scope k)))
      evalEntries scope (Value.insert acc key v) rest

/-- Named arguments; the last one of a name counts. -/
def evalNamed (scope : List (Value × Value)) :
    List (Option String × Expr) -> EvalM (List (String × Value))
  | [] => pure []
  | (none, e) :: _ => do
      let _ <- eval scope e
      throw (.fault (.badArgument "keywords must be strings"))
  | (some n, e) :: rest => do
      let v <- eval scope e
      let more <- evalNamed scope rest
      pure (if more.any fun (m, _) => m == n then more else (n, v) :: more)

/-- A part of a slice; one that is left out is null. -/
def evalOptional (scope : List (Value × Value)) : Option Expr -> EvalM Value
  | none => pure .null
  | some e => eval scope e

/-- The first operand that counts as false, or the last one. -/
def evalConj (scope : List (Value × Value)) (last : Value) : List Expr -> EvalM Value
  | [] => pure last
  | e :: rest => do
      let v <- look (<- eval scope e)
      if v.truthy then evalConj scope v rest else pure v

/-- The first operand that counts as true, or the last one. -/
def evalDisj (scope : List (Value × Value)) (last : Value) : List Expr -> EvalM Value
  | [] => pure last
  | e :: rest => do
      let v <- look (<- eval scope e)
      if v.truthy then pure v else evalDisj scope v rest

/-- The comparisons of a chain, up to the first that fails. -/
def evalChain (scope : List (Value × Value)) (left : Expr) (v : Value)
    (holds : Bool) : List (CompareOp × Expr) -> EvalM Value
  | [] => pure (.bool holds)
  | (op, e) :: rest =>
      if !holds then pure (.bool false)
      else do
        let w <- eval scope e
        let b <- applyComparison op (samePlace left e) v w
        evalChain scope e w b rest

/-- Go through the bindings of the clauses in order, gathering pairs. -/
def evalClauses (scope : List (Value × Value))
    (yield : List (Value × Value) -> EvalM (List (Value × Value)))
    (acc : List (Value × Value)) :
    List (Target × Expr × List Expr) -> EvalM (List (Value × Value))
  | [] => yield acc
  | (target, source, conditions) :: rest => do
      let v <- eval scope source
      let t <- lift (Traversal.start (<- get).objects v)
      forEach
        (fun acc item => do
          bindTarget target item
          if (<- evalConditions scope conditions) then evalClauses scope yield acc rest
          else pure acc)
        (maxBindings + 2) acc t

/-- Whether all conditions of a clause hold. -/
def evalConditions (scope : List (Value × Value)) : List Expr -> EvalM Bool
  | [] => pure true
  | e :: rest => do
      let v <- look (<- eval scope e)
      if v.truthy then evalConditions scope rest else pure false

/-- The parts of a text one after another, each within the limit of its length. -/
def evalParts (scope : List (Value × Value)) : List Expr -> EvalM String
  | [] => pure ""
  | e :: rest => do
      let s <- lift (<- current (<- eval scope e)).textOf
      if maxLength < s.length then
        forbid "Sorry, I will not evaluate something this long."
      else pure (s ++ (<- evalParts scope rest))

end

/-! ## Whole expressions -/

/-- Why a text has no value as an expression. -/
inductive Failure where
  | badSyntax
  | fault (f : EvalFault)
  deriving Repr, Inhabited

/-- The expression that the first statement of a text is, or why it has no value. -/
def statementOf (source : String) : Except Failure Expr :=
  let forbidden (text : String) : Except Failure Expr := .error (.fault (.forbidden text))
  if source.toList.contains '\x00' then
    .error (.fault (.fault (.badValue "source code string cannot contain null bytes")))
  else
    match Reading.read source with
    | .invalid => .error .badSyntax
    | .blank => forbidden "Sorry, cannot evaluate empty string"
    | .statement .importing => forbidden "Sorry, 'import' is not allowed."
    | .statement (.excluded form) => forbidden s!"Sorry, {form} is not available in this evaluator"
    | .statement (.value e) => .ok e

/-- The value of the first statement of a text, and what changeable values hold afterwards. -/
def evaluate (source : String) (scope : List (Value × Value)) : EStateM Failure Objects Value :=
  fun o =>
    match statementOf source with
    | .error f => .error f o
    | .ok e =>
        match eval scope e ⟨0, [], [], o⟩ with
        | .ok v s => .ok (s.objects.refresh v) s.objects
        | .error f s => .error (.fault f) s.objects

namespace Failure

/-- Whether the failure says that something referenced does not exist. -/
def isMissing : Failure -> Bool
  | fault (.unknownName _) => true
  | fault (.noAttribute _) => true
  | fault (.fault f) => f.isMissing
  | _ => false

/-- The message about an expression that failed. -/
def message (source : String) : Failure -> String
  | badSyntax => s!"Invalid expression syntax '{source}': invalid syntax"
  | fault (.unknownName id) =>
      s!"Unknown variable in expression '{source}': '{id}' is not defined for expression '{source}'"
  | fault (.noAttribute id) =>
      s!"Expression '{source}' references a missing value: Attribute '{id}' does not exist in expression '{source}'"
  | fault (.unknownFunction id) =>
      s!"Expression '{source}' is not allowed: Function '{id}' not defined, for expression '{source}'."
  | fault (.forbidden text) => s!"Expression '{source}' is not allowed: {text}"
  | fault (.fault f) =>
      if f.isMissing then s!"Expression '{source}' references a missing value: {f.message}"
      else s!"Failed to evaluate expression '{source}': {f.message}"

end Failure

end Expr

end Workflow
