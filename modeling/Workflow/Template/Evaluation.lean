import Workflow.Template.Loop

/-!
# Evaluation of templates

Terms have values and statements write text.  Every function takes a bound on the depth
of its calls; macros and recursive loops have a smaller bound of their own.
-/

namespace Workflow

namespace Template

/-- How deeply macros and recursive loops may call each other. -/
def maxDepth : Nat := 200

/-- The largest range a template may build. -/
def maxRange : Nat := 100000

/-- Methods that go through their arguments. -/
def gatheringMethods : List String :=
  ["extend", "join", "update", "fromkeys", "union", "intersection", "difference",
    "symmetric_difference", "issubset", "issuperset", "isdisjoint", "difference_update",
    "intersection_update", "symmetric_difference_update"]

/-- Whether a call goes through its arguments. -/
def gathers : Value -> Bool
  | .method _ name => gatheringMethods.contains name
  | .converter _ => true
  | .function name => name == "namespace"
  | _ => false

/-- Arguments of a call that goes through them: streams among them are gone through at once. -/
def gathered (judge : Judge) (escaping : Bool) (fuel : Nat) (a : Value.Arguments) :
    Render Value.Arguments := do
  let positional <- a.positional.mapM fun v => do
    match v with
    | .stream .. => do pure (.tuple (<- drain judge escaping fuel v))
    | v => pure v
  pure { a with positional }

/-- A function of a template's own, applied to arguments that do not concern its surroundings. -/
def callGlobal (name : String) (a : Value.Arguments) : Render Value := do
  match name with
  | "range" => do
      let numbers <- lift (a.positional.mapM fun v => do
        Value.presentUse v
        Value.indexArgument v)
      let (start, stop, step) <- match numbers with
        | [stop] => pure ((0 : Int), stop, (1 : Int))
        | [start, stop] => pure (start, stop, 1)
        | [start, stop, step] => pure (start, stop, step)
        | [] => throw (.badArgument "range expected at least 1 argument, got 0")
        | ns => throw (.badArgument s!"range expected at most 3 arguments, got {ns.length}")
      if step = 0 then throw (.badValue "range() arg 3 must not be zero")
      else if maxRange < Value.rangeLength start stop step then
        throw (.overflow
          s!"Range too big. The sandbox blocks ranges larger than MAX_RANGE ({maxRange}).")
      else pure (.range start stop step)
  | "namespace" => do
      match <- lift (Value.convert "dict" a) with
      | .dict entries => do
          let fields := entries.filterMap fun (k, v) => k.asText?.map fun n => (n, v)
          pure (.slot .namespace (<- newCell (.fields fields)))
      | v => pure v
  | "cycler" =>
      if a.positional.isEmpty then
        throw (.other "RuntimeError" "at least one item has to be provided")
      else do pure (.slot .cycler (<- newCell (.cycler a.positional 0)))
  | "joiner" => do
      let b <- lift (Signature.bind ⟨"Joiner.__init__", 1, [], ["sep"]⟩ a)
      pure (.slot .joiner (<- newCell (.joiner (argument b 0 (.str ", ")) false)))
  | name => perform (Value.call (.function name) a)

/-- Call a method of a value in a cell. -/
def callSlotMethod (place : Nat) (name : String) (a : Value.Arguments) : Render Value := do
  match (<- get).cells[place]?, name with
  | some (.loop l), "cycle" =>
      match a.positional[(l.started - 1) % a.positional.length]? with
      | some v => pure v
      | none => throw (.badArgument "no items for cycling given")
  | some (.loop l), "changed" => do
      let asked <- a.positional.mapM current
      let before <- (l.changed.getD []).mapM current
      let same := l.changed.isSome && Value.equalLists before asked
      if same then pure (.bool false)
      else do
        putCell place (.loop { l with changed := some a.positional })
        pure (.bool true)
  | some (.cycler items i), "next" => do
      putCell place (.cycler items ((i + 1) % items.length))
      pure ((items[i]?).getD .null)
  | some (.cycler items _), "reset" => do
      putCell place (.cycler items 0)
      pure .null
  | _, _ => throw (.notCallable "object")

/-- Call a value that is neither a macro nor a loop. -/
def callPlain (judge : Judge) (escaping : Bool) (fuel : Nat) (f : Value) (a : Value.Arguments) :
    Render Value := do
  let a <- if gathers f then gathered judge escaping fuel a else pure a
  match f with
  | .undefined .. => do
      lift (Value.presentUse f)
      pure f
  | .function name => callGlobal name a
  | .method (.slot _ place) name => callSlotMethod place name a
  | .method (.markup s) name => do make (callMarkup s name (<- currentArguments a))
  | .method (.str s) "format" => do make (formatText (.str s) s (<- currentArguments a))
  | .method (.str s) "format_map" => do make (formatMapping (.str s) s (<- currentArguments a))
  | .slot .joiner place =>
      match (<- get).cells[place]? with
      | some (.joiner separator used) => do
          putCell place (.joiner separator true)
          pure (if used then separator else .str "")
      | _ => pure .null
  | .slot .namespace _ => throw (.notCallable "Namespace")
  | .slot .cycler _ => throw (.notCallable "Cycler")
  | f => do
      let a <- currentArguments a
      perform do Action.own (<- Value.call f a)

/-- Apply a binary operator to values that have to exist. -/
def combine (op : BinaryOp) (v w : Value) : Outcome Value := do
  Value.presentUse v
  match op, v.asText? with
  | .rem, some _ => .ok ()
  | _, _ => Value.presentUse w
  Value.operate op v w

/-- Compare two values that have to exist. -/
def compareValues (op : CompareOp) (v w : Value) : Outcome Bool := do
  match op with
  | .eq => equalValues v w
  | .ne => do .ok !(<- equalValues v w)
  | .related r => relatedValues r v w
  | .isIn => isMember v w
  | .notIn => do .ok !(<- isMember v w)
  | .is => .ok (isSame v w)
  | .isNot => .ok !(isSame v w)

/-- Compare two values as they are by now. -/
def compareCurrent (judge : Judge) (escaping : Bool) (fuel : Nat) (op : CompareOp) (v w : Value) :
    Render Bool := do
  match op with
  | .isIn => isMemberOf judge escaping fuel v w
  | .notIn => do pure !(<- isMemberOf judge escaping fuel v w)
  | op => do
      let v <- current v
      lift (compareValues op v (<- current w))

/-- Texts one after another; where values are escaped, markup among them makes markup. -/
def concatenated (escaping : Bool) (vs : List Value) : Outcome Value :=
  joined escaping (.str "") vs

/-- Named arguments from a mapping. -/
def namedOf (v : Value) : Outcome (List (String × Value)) := do
  Value.presentUse v
  match v.entries? with
  | some entries => entries.mapM fun (k, w) => do
      match k.asText? with
      | some n => .ok (n, w)
      | none => .error (.badArgument "keywords must be strings")
  | none =>
      .error (.badArgument
        s!"jinja2.sandbox.SandboxedEnvironment.call() argument after ** must be a mapping, not {v.kind}")

/-- The items of a value that is taken apart. -/
def unpacked (judge : Judge) (escaping : Bool) (fuel : Nat) (v : Value) : Render (List Value) := do
  match v with
  | .stream .. => drain judge escaping fuel v
  | v =>
      match (<- look v).items, v with
      | .ok xs, _ => pure xs
      | .error f, .undefined .. => throw f
      | .error _, v => throw (.badArgument s!"cannot unpack non-iterable {v.kind} object")

/-- The items of a value that further arguments come from. -/
def spreadItems (judge : Judge) (escaping : Bool) (fuel : Nat) (v : Value) :
    Render (List Value) := do
  match v with
  | .stream .. => drain judge escaping fuel v
  | v => do
      lift (Value.strictUse v)
      match (<- look v).items with
      | .ok xs => pure xs
      | .error _ => throw (.badArgument s!"Value after * must be an iterable, not {v.kind}")

/-- Assign a value to a place, taking it apart where the place has several parts. -/
def assignTo (judge : Judge) (s : Surroundings) : Nat -> Place -> Value -> Render Unit
  | 0, _, _ => throw tooDeep
  | fuel + 1, p, v => do
      match p with
      | .name id _ => s.assign id v
      | .field owner name => do
          match <- s.lookup owner with
          | .slot .namespace place =>
              match (<- get).cells[place]? with
              | some (.fields entries) => putCell place (.fields (setName entries name v))
              | _ => pure ()
          | _ =>
              throw (.other "TemplateRuntimeError"
                "cannot assign attribute on non-namespace object")
      | .several ps => do
          let xs <- unpacked judge s.escaping fuel v
          if xs.length < ps.length then
            throw (.badValue
              s!"not enough values to unpack (expected {ps.length}, got {xs.length})")
          else if ps.length < xs.length then
            throw (.badValue s!"too many values to unpack (expected {ps.length})")
          else (ps.zip xs).forM fun (p, x) => assignTo judge s fuel p x

/-- The arguments of a macro bound to its parameters, and what is left of the named ones. -/
def bindParameters (c : Closure) (a : Value.Arguments) :
    Outcome (List (String × Option Value) × List (String × Value)) := do
  let label := match c.name with
    | some n => Text.quoted n
    | none => "None"
  let names := c.parameters.map (·.1)
  let given := a.positional.take names.length
  let late := names.drop given.length
  let bound := (names.zip given).map (fun (n, v) => (n, some v))
    ++ late.map fun n => (n, a.named.lookup n)
  let left := a.named.filter fun (n, _) => !late.contains n
  let usesCaller := mentions "caller" 1000 c.body
  let caller : List (String × Option Value) :=
    if usesCaller && !names.contains "caller" then
      let v := match left.lookup "caller" with
        | some .null => none
        | o => o
      [("caller", some (v.getD (.undefined "No caller defined" .strict)))]
    else []
  let left := if caller.isEmpty then left else left.filter fun (n, _) => n != "caller"
  let usesNamed := mentions "kwargs" 1000 c.body && !names.contains "kwargs"
  let usesRest := mentions "varargs" 1000 c.body && !names.contains "varargs"
  if !usesNamed then
    match left with
    | [] => pure ()
    | (n, _) :: _ =>
        if (left.lookup "caller").isSome then
          .error (.badArgument
            s!"macro {label} was invoked with two values for the special caller argument. This is most likely a bug.")
        else
          .error (.badArgument s!"macro {label} takes no keyword argument '{n}'")
  if !usesRest && names.length < a.positional.length then
    .error (.badArgument s!"macro {label} takes not more than {names.length} argument(s)")
  let kwargs : List (String × Option Value) :=
    if usesNamed then [("kwargs", some (Value.record left))] else []
  let varargs : List (String × Option Value) :=
    if usesRest then [("varargs", some (.tuple (a.positional.drop names.length)))] else []
  .ok (bound ++ caller ++ kwargs ++ varargs, left)

mutual

/-- The value of a term. -/
def evalTerm (s : Surroundings) (fuel : Nat) (e : Term) : Render Value := do
  match fuel with
  | 0 => throw tooDeep
  | fuel + 1 =>
      match e with
      | .const v => pure v
      | .name id => s.lookup id
      | .unary .not e => do pure (.bool !(<- holds (<- evalTerm s fuel e)))
      | .unary op e => do
          let v <- current (<- evalTerm s fuel e)
          lift (Value.presentUse v)
          make (Value.unary op v)
      | .binary op l r => do
          let v <- evalTerm s fuel l
          let w <- evalTerm s fuel r
          let v <- current v
          let result <- make (combine op v (<- current w))
          if e.isConstant then make (.ok result.unmarked) else pure result
      | .conj l r => do
          let v <- evalTerm s fuel l
          if <- holds v then evalTerm s fuel r else pure v
      | .disj l r => do
          let v <- evalTerm s fuel l
          if <- holds v then pure v else evalTerm s fuel r
      | .concat parts => do
          let vs <- evalTerms s fuel parts
          lift (concatenated s.escaping (<- vs.mapM current))
      | .compare first rest => do
          let v <- evalTerm s fuel first
          evalComparisons s fuel v rest
      | .choice test yes no line => do
          if <- holds (<- evalTerm s fuel test) then evalTerm s fuel yes
          else
            match no with
            | some e => evalTerm s fuel e
            | none =>
                pure (.undefined
                  s!"the inline if-expression on line {line} evaluated to false and no else section was defined."
                  .lenient)
      | .call (.field owner name) a => evalMethod s fuel owner name a
      | .call f a => do
          let f <- evalTerm s fuel f
          let a <- evalArguments s fuel a
          callValue s fuel f a
      | .field owner name => do
          let v <- evalTerm s fuel owner
          partOf (fun b x => keeps fuel b x) s.escaping fuel v name
      | .item owner key => do
          let v <- evalTerm s fuel owner
          let k <- evalTerm s fuel key
          itemIn (fun b x => keeps fuel b x) s.escaping fuel v k
      | .slice owner lower upper step => do
          let v <- evalTerm s fuel owner
          let a <- evalOptional s fuel lower
          let b <- evalOptional s fuel upper
          let c <- evalOptional s fuel step
          make (Value.slice (<- look v) ⟨a, b, c⟩)
      | .list items => do make (.ok (.list (<- evalTerms s fuel items)))
      | .tuple items => do pure (.tuple (<- evalTerms s fuel items))
      | .dict entries => do make (.ok (.dict (<- evalEntries s fuel [] entries)))
      | .filter subject name a _ => do
          let v <- match subject with
            | some e => evalTerm s fuel e
            | none => pure s.subject
          let a <- evalArguments s fuel a
          if filterNames.contains name then
            applyFilter (fun b x => keeps fuel b x) s.escaping fuel name v a
          else
            let quoted := Text.quoted name
            throw (.other "TemplateRuntimeError" s!"No filter named {quoted} found.")
      | .test subject name a _ => do
          let v <- evalTerm s fuel subject
          let a <- evalArguments s fuel a
          if testNames.contains name then do
            pure (.bool (<- testValue (fun b x => keeps fuel b x) s.escaping fuel name v a))
          else
            let quoted := Text.quoted name
            throw (.other "TemplateRuntimeError" s!"No test named {quoted} found.")
termination_by structural fuel

/-- The values of terms. -/
def evalTerms (s : Surroundings) (fuel : Nat) (es : List Term) : Render (List Value) := do
  match fuel with
  | 0 => throw tooDeep
  | fuel + 1 =>
      match es with
      | [] => pure []
      | e :: rest => do
          let v <- evalTerm s fuel e
          let vs <- evalTerms s fuel rest
          pure (v :: vs)
termination_by structural fuel

/-- The value of a term that may be left out. -/
def evalOptional (s : Surroundings) (fuel : Nat) (e : Option Term) : Render Value := do
  match fuel with
  | 0 => throw tooDeep
  | fuel + 1 =>
      match e with
      | some e => evalTerm s fuel e
      | none => pure .null
termination_by structural fuel

/-- The entries of a dictionary; later ones replace earlier ones. -/
def evalEntries (s : Surroundings) (fuel : Nat) (acc : List (Value × Value))
    (ps : List (Term × Term)) : Render (List (Value × Value)) := do
  match fuel with
  | 0 => throw tooDeep
  | fuel + 1 =>
      match ps with
      | [] => pure acc
      | (k, e) :: rest => do
          let key <- evalTerm s fuel k
          let v <- evalTerm s fuel e
          let key <- lift (hashedKey (<- current key))
          evalEntries s fuel (Value.insert acc key v) rest
termination_by structural fuel

/-- A chain of comparisons. -/
def evalComparisons (s : Surroundings) (fuel : Nat) (v : Value)
    (rest : List (CompareOp × Term)) : Render Value := do
  match fuel with
  | 0 => throw tooDeep
  | fuel + 1 =>
      match rest with
      | [] => pure (.bool true)
      | (op, e) :: rest => do
          let w <- evalTerm s fuel e
          let holds <- compareCurrent (fun b x => keeps fuel b x) s.escaping fuel op v w
          if holds then evalComparisons s fuel w rest else pure (.bool false)
termination_by structural fuel

/-- The arguments of a call. -/
def evalArguments (s : Surroundings) (fuel : Nat) (a : Call Term) : Render Value.Arguments := do
  match fuel with
  | 0 => throw tooDeep
  | fuel + 1 => do
      let positional <- evalTerms s fuel a.positional
      let values <- evalTerms s fuel (a.named.map (·.2))
      let named := (a.named.map (·.1)).zip values
      let more <- match a.spread with
        | some e => do
            let v <- evalTerm s fuel e
            spreadItems (fun b x => keeps fuel b x) s.escaping fuel v
        | none => pure []
      let moreNamed <- match a.spreadNamed with
        | some e => do lift (namedOf (<- look (<- evalTerm s fuel e)))
        | none => pure []
      pure ⟨positional ++ more, named ++ moreNamed⟩
termination_by structural fuel

/-- Call a part of a value; the blocks of the template are parts of the template itself. -/
def evalMethod (s : Surroundings) (fuel : Nat) (owner : Term) (name : String) (a : Call Term) :
    Render Value := do
  match fuel with
  | 0 => throw tooDeep
  | fuel + 1 =>
      match owner, s.blocks.find? fun b => b.name == name with
      | .name "self", some b => do
          let out <- evalBlock s fuel b ""
          pure (textValue s.escaping out)
      | _, _ => do
          let v <- evalTerm s fuel owner
          let f <- partOf (fun b x => keeps fuel b x) s.escaping fuel v name
          let a <- evalArguments s fuel a
          callValue s fuel f a
termination_by structural fuel

/-- Call a value. -/
def callValue (s : Surroundings) (fuel : Nat) (f : Value) (a : Value.Arguments) :
    Render Value := do
  match fuel with
  | 0 => throw tooDeep
  | fuel + 1 =>
      match f with
      | .slot _ place =>
          match (<- get).cells[place]? with
          | some (.closure c) => callClosure s fuel c a
          | some (.loop l) =>
              match l.again, a.positional with
              | some again, v :: _ => do
                  if maxDepth ≤ s.depth then throw tooDeep
                  let inner := { again.surroundings with depth := s.depth + 1 }
                  let out <- evalLoop inner fuel again (l.depth + 1, v) ""
                  pure (textValue s.escaping out)
              | _, _ =>
                  throw (.badArgument
                    "The loop must have the 'recursive' marker to be called recursively.")
          | _ => callPlain (fun b x => keeps fuel b x) s.escaping fuel f a
      | f => callPlain (fun b x => keeps fuel b x) s.escaping fuel f a
termination_by structural fuel

/-- Call a macro. -/
def callClosure (s : Surroundings) (fuel : Nat) (c : Closure) (a : Value.Arguments) :
    Render Value := do
  match fuel with
  | 0 => throw tooDeep
  | fuel + 1 => do
      if maxDepth ≤ s.depth then throw tooDeep
      let (bound, _) <- lift (bindParameters c a)
      let inner <- { c.defined with depth := s.depth + 1 }.inner []
      bindDefaults inner fuel c bound
      let out <- evalBody inner fuel c.body ""
      pure (textValue c.defined.escaping out)
termination_by structural fuel

/-- Bind the parameters of a macro in order; a default may use those before it. -/
def bindDefaults (s : Surroundings) (fuel : Nat) (c : Closure)
    (bound : List (String × Option Value)) : Render Unit := do
  match fuel with
  | 0 => throw tooDeep
  | fuel + 1 =>
      match bound with
      | [] => pure ()
      | (name, some v) :: rest => do
          s.assign name v
          bindDefaults s fuel c rest
      | (name, none) :: rest => do
          let v <- match c.parameters.lookup name with
            | some (some e) => evalTerm s fuel e
            | _ => do
                let quoted := Text.quoted name
                pure (Value.undefined s!"parameter {quoted} was not provided" .strict)
          s.assign name v
          bindDefaults s fuel c rest
termination_by structural fuel

/-- Write statements. -/
def evalBody (s : Surroundings) (fuel : Nat) (body : List Statement) (out : String) :
    Render String := do
  match fuel with
  | 0 => throw tooDeep
  | fuel + 1 =>
      match body with
      | [] => pure out
      | st :: rest => do
          let out <- evalStatement s fuel st out
          evalBody s fuel rest out
termination_by structural fuel

/-- Write the values of terms. -/
def evalPrinted (s : Surroundings) (fuel : Nat) (es : List Term) (out : String) :
    Render String := do
  match fuel with
  | 0 => throw tooDeep
  | fuel + 1 =>
      match es with
      | [] => pure out
      | e :: rest => do
          let v <- evalTerm s fuel e
          let text <- printed (fun b x => keeps fuel b x) s.escaping fuel v
          evalPrinted s fuel rest (out ++ text)
termination_by structural fuel

/-- Write one statement. -/
def evalStatement (s : Surroundings) (fuel : Nat) (st : Statement) (out : String) :
    Render String := do
  match fuel with
  | 0 => throw tooDeep
  | fuel + 1 =>
      match st with
      | .text t => pure (out ++ t)
      | .print es => evalPrinted s fuel es out
      | .forEach place source test recursive body otherwise => do
          let again : LoopBody := ⟨place, test, body, otherwise, recursive, s⟩
          let v <- evalTerm s fuel source
          evalLoop s fuel again (0, v) out
      | .cond branches otherwise => evalBranches s fuel branches otherwise out
      | .within bindings body => do
          let values <- evalTerms s fuel (bindings.map (·.2))
          let inner <- s.inner []
          ((bindings.map (·.1)).zip values).forM fun (p, v) =>
            assignTo (fun b x => keeps fuel b x) inner fuel p v
          evalBody inner fuel body out
      | .escaping on body => do
          let v <- evalTerm s fuel on
          let b <- holds v
          let inner <- s.inner []
          evalBody { inner with escaping := b } fuel body out
      | .block name inherits required body line =>
          evalBlock s fuel ⟨name, inherits, required, body, line⟩ out
      | .defineMacro name parameters body _ => do
          let c : Closure := ⟨some name, parameters, body, s⟩
          s.assign name (.slot .template (<- newCell (.closure c)))
          pure out
      | .callWith parameters callee a body _ => do
          let c : Closure := ⟨none, parameters, body, s⟩
          let caller := Value.slot .caller (<- newCell (.closure c))
          let f <- evalTerm s fuel callee
          let a <- evalArguments s fuel a
          let v <- callValue s fuel f { a with named := a.named ++ [("caller", caller)] }
          pure (out ++ (<- printed (fun b x => keeps fuel b x) s.escaping fuel v))
      | .filtered filter body => do
          let inner <- s.inner []
          let text <- evalBody inner fuel body ""
          let v <- evalTerm { inner with subject := textValue s.escaping text } fuel filter
          pure (out ++ (<- printed (fun b x => keeps fuel b x) s.escaping fuel v))
      | .assign place e => do
          let v <- evalTerm s fuel e
          assignTo (fun b x => keeps fuel b x) s fuel place v
          pure out
      | .assignText place filter body => do
          let inner <- s.inner []
          let text <- evalBody inner fuel body ""
          let v := textValue s.escaping text
          let v <- match filter with
            | some e => evalTerm { inner with subject := v } fuel e
            | none => pure v
          assignTo (fun b x => keeps fuel b x) s fuel place v
          pure out
      | .load e => do
          let v <- evalTerm s fuel e
          lift (Value.strictUse v)
          throw (.badArgument "no loader for this environment specified")
termination_by structural fuel

/-- Write the first branch whose test holds. -/
def evalBranches (s : Surroundings) (fuel : Nat) (branches : List (Term × List Statement))
    (otherwise : List Statement) (out : String) : Render String := do
  match fuel with
  | 0 => throw tooDeep
  | fuel + 1 =>
      match branches with
      | [] => evalBody s fuel otherwise out
      | (test, body) :: rest => do
          if <- holds (<- evalTerm s fuel test) then evalBody s fuel body out
          else evalBranches s fuel rest otherwise out
termination_by structural fuel

/-- Write a block; it sees the names of the top level, and those around it if it inherits them. -/
def evalBlock (s : Surroundings) (fuel : Nat) (b : Block) (out : String) : Render String := do
  match fuel with
  | 0 => throw tooDeep
  | fuel + 1 => do
      if maxDepth ≤ s.depth then throw tooDeep
      if b.required then
        let quoted := Text.quoted b.name
        throw (.other "TemplateRuntimeError" s!"Required block {quoted} not found")
      let quoted := Text.quoted b.name
      let parent := Value.undefined s!"there is no parent block called {quoted}." .strict
      let scopes := if b.inherits then s.scopes else [1, 0]
      let inner <- { s with scopes, depth := s.depth + 1 }.inner [("super", parent)]
      evalBody inner fuel b.body out
termination_by structural fuel

/-- Write a loop at a depth over the items of a value. -/
def evalLoop (s : Surroundings) (fuel : Nat) (again : LoopBody) (source : Nat × Value)
    (out : String) : Render String := do
  match fuel with
  | 0 => throw tooDeep
  | fuel + 1 => do
      let again := { again with surroundings := s }
      let items <- if again.test.isSome then
          newStream generatorKind (.chosen again) (.waiting source.2)
        else pure source.2
      let l := LoopState.start items (<- courseOf items) source.1
        (if again.recursive then some again else none)
      let place <- newCell (.loop l)
      let out <- evalItems s fuel again place out
      match <- loopAt? place with
      | some l =>
          if l.started = 0 then do
            let inner <- s.inner []
            evalBody inner fuel again.otherwise out
          else pure out
      | none => pure out
termination_by structural fuel

/-- Whether the test of a loop chooses an item. -/
def keeps (fuel : Nat) (again : LoopBody) (x : Value) : Render Bool := do
  match fuel with
  | 0 => throw tooDeep
  | fuel + 1 =>
      match again.test with
      | none => pure true
      | some test => do
          let inner <- again.surroundings.inner []
          assignTo (fun b x => keeps fuel b x) inner fuel again.place x
          holds (<- evalTerm inner fuel test)
termination_by structural fuel

/-- Write the body of a loop for each of the items that are left. -/
def evalItems (s : Surroundings) (fuel : Nat) (again : LoopBody) (place : Nat) (out : String) :
    Render String := do
  match fuel with
  | 0 => throw tooDeep
  | fuel + 1 =>
      match <- loopAt? place with
      | none => pure out
      | some l => do
          match <- takeItem (fun b x => keeps fuel b x) s.escaping fuel place l with
          | none => pure out
          | some x => do
              let inner <- s.inner [("loop", .slot .loop place)]
              assignTo (fun b x => keeps fuel b x) inner fuel again.place x
              let out <- evalBody inner fuel again.body out
              evalItems s fuel again place out
termination_by structural fuel

end

end Template

end Workflow
