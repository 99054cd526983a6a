import Workflow.Template.Memory

/-!
# Streams

Some filters give a sequence whose items are made only when they are asked for, each of
them once.  A stream keeps what it goes through and how far it has come; taking an item
may take items of the streams it is made from.
-/

namespace Workflow

namespace Template

/-- The fault of calls that are nested too deeply. -/
def tooDeep : Fault :=
  .other "RecursionError" "maximum recursion depth exceeded"

/-- Which items a loop with a test goes through; it takes the evaluation of terms to tell. -/
abbrev Judge := LoopBody -> Value -> Render Bool

/-- The type of sequences that filters make. -/
def generatorKind : String := "generator"

/-- A value to be gone through from its start. -/
def courseOf (v : Value) : Render Course := do
  match v with
  | .stream _ place => pure (.stream place)
  | v => do
      lift (Value.strictUse v)
      pure (.values (<- lift (Traversal.start (<- get).objects v)))

/-- Whether a value counts as true; it has to exist. -/
def holds (v : Value) : Render Bool := do
  lift (Value.strictUse v)
  pure (<- look v).truthy

/-- Filters that choose among the items of their subject, with whether they keep those that pass the test, and whether they look at a part of each item. -/
def choosers : List (String × Bool × Bool) :=
  [("select", true, false), ("reject", false, false), ("selectattr", true, true),
    ("rejectattr", false, true)]

/-- Check the arguments of a filter that applies another one to each item. -/
def checkMapping (a : Value.Arguments) : Outcome Unit :=
  match a.positional, a.named.lookup "attribute" with
  | [], some _ =>
      match a.named.find? fun (n, _) => n != "attribute" && n != "default" with
      | some (n, _) => .error (filterFault s!"Unexpected keyword argument '{n}'")
      | none => .ok ()
  | [], none => .error (filterFault "map requires a filter argument")
  | _ :: _, _ => .ok ()

/-- What a filter that makes a stream needs of its subject before the first item. -/
def checkSubject (name : String) (a : Value.Arguments) : Outcome Unit :=
  match name, choosers.lookup name with
  | "map", _ => checkMapping a
  | _, some (_, true) =>
      if a.positional.isEmpty then .error (filterFault "Missing parameter for attribute name")
      else .ok ()
  | _, _ => .ok ()

/-- Filters that give nothing when their subject counts as false. -/
def skipsEmpty (name : String) : Bool :=
  name == "map" || (choosers.lookup name).isSome

/-- Put a stream into a cell. -/
def putStream (place : Nat) (maker : Maker) (stage : Stage) : Render Unit :=
  putCell place (.stream ⟨maker, stage⟩)

/-- The part of an item that a filter looks at, and the arguments of the test it applies. -/
def lookedAt (byPart : Bool) (a : Value.Arguments) (x : Value) :
    Outcome (Value × Value.Arguments) := do
  match byPart, a.positional with
  | true, part :: rest => do .ok ((<- partAt none x (keysOf part)), ⟨rest, a.named⟩)
  | _, _ => .ok (x, a)

/-- Filters whose results are streams, with the signatures of those that check their arguments. -/
def streamFilters : List (String × Option Signature) :=
  [("map", none), ("select", none), ("reject", none), ("selectattr", none), ("rejectattr", none),
    ("unique", some (filterSignature "do_unique" 2 [] ["case_sensitive", "attribute"])),
    ("batch", some (filterSignature "do_batch" 1 ["linecount"] ["fill_with"])),
    ("slice", some (filterSignature "sync_do_slice" 1 ["slices"] ["fill_with"])),
    ("items", some (filterSignature "do_items" 1 [] []))]

/-- The argument of a stream's filter at a place. -/
def streamArgument (name : String) (a : Value.Arguments) (place : Nat) (default : Value) : Value :=
  match streamFilters.lookup name with
  | some (some sig) =>
      match sig.bind a with
      | .ok b => argument b place default
      | .error _ => default
  | _ => default

/-- The name of the type of what goes through a value backwards. -/
def backwardKind (v : Value) : String :=
  match v.bare with
  | .list _ => "list_reverseiterator"
  | .view .values _ => "dict_reversevalueiterator"
  | .view .items _ => "dict_reverseitemiterator"
  | .range .. => "range_iterator"
  | .tuple _ => "reversed"
  | .bytes _ => "reversed"
  | _ => "dict_reversekeyiterator"

/-- Whether a value can be gone through backwards. -/
def isReversible (v : Value) : Bool :=
  match v.bare with
  | .set _ => false
  | .stream .. => false
  | v =>
      match v.items with
      | .ok _ => true
      | .error _ => false

/-- What goes through a value backwards. -/
def backward (v : Value) : Render Value := do
  let t <- match Traversal.startBackward? (<- get).objects v with
    | some t => pure t
    | none => do pure (.fixed (<- lift (<- look v).items).reverse)
  newStream (backwardKind v) .items (.running (.values t) [])

/-- The last run of a stream that gathers items, filled up; none when there is nothing in it. -/
def lastRun (a : Value.Arguments) (kept : List Value) : Render (Option Value) := do
  if kept.isEmpty then pure none
  else do
    let filled := filledUp (streamArgument "batch" a 0 .null) (streamArgument "batch" a 1 .null) kept
    pure (some (<- make (do .ok (.list (<- filled)))))

mutual

/-- The next item, and what is left after it. -/
def nextOf (judge : Judge) (escaping : Bool) (fuel : Nat) (c : Course) :
    Render (Option Value × Course) := do
  match fuel with
  | 0 => throw tooDeep
  | fuel + 1 =>
      match c with
      | .values t =>
          match <- lift (t.next (<- get).objects) with
          | some (x, rest) => pure (some x, .values rest)
          | none => pure (none, .values (.fixed []))
      | .stream place => do pure ((<- pull judge escaping fuel place), .stream place)
termination_by structural fuel

/-- The next item of a stream. -/
def pull (judge : Judge) (escaping : Bool) (fuel : Nat) (place : Nat) : Render (Option Value) := do
  match fuel with
  | 0 => throw tooDeep
  | fuel + 1 =>
      match (<- get).cells[place]? with
      | some (.stream ⟨maker, .waiting source⟩) => do
          startStream judge escaping fuel place maker source
          pull judge escaping fuel place
      | some (.stream ⟨maker, .running left kept⟩) =>
          advance judge escaping fuel place maker left kept
      | _ => pure none
termination_by structural fuel

/-- Begin a stream with what it is made from. -/
def startStream (judge : Judge) (escaping : Bool) (fuel : Nat) (place : Nat) (maker : Maker)
    (source : Value) : Render Unit := do
  match fuel with
  | 0 => throw tooDeep
  | fuel + 1 =>
      match maker with
      | .filter "items" _ =>
          match source with
          | .undefined .. => putStream place maker .ended
          | source =>
              if source.entries?.isSome then do
                putStream place .items (.running (<- courseOf (.view .items source)) [])
              else throw (.badArgument "Can only get item pairs from a mapping.")
      | .filter "slice" a => do
          let xs <- drain judge escaping fuel source
          let parts <- make (do
            .ok (.list (<- columns (streamArgument "slice" a 0 .null)
              (streamArgument "slice" a 1 .null) xs)))
          let parts <- lift parts.items
          putStream place .items (.running (.values (.fixed parts)) [])
      | .filter name a => do
          let skipped <- if skipsEmpty name then do pure !(<- holds source) else pure false
          if skipped then putStream place maker .ended
          else do
            lift (checkSubject name a)
            putStream place maker (.running (<- courseOf source) [])
      | maker => do putStream place maker (.running (<- courseOf source) [])
termination_by structural fuel

/-- The next item of a stream that has begun. -/
def advance (judge : Judge) (escaping : Bool) (fuel : Nat) (place : Nat) (maker : Maker)
    (left : Course) (kept : List Value) : Render (Option Value) := do
  match fuel with
  | 0 => throw tooDeep
  | fuel + 1 => do
      let (x?, left) <- nextOf judge escaping fuel left
      match x? with
      | none => do
          putStream place maker .ended
          match maker with
          | .filter "batch" a => lastRun a kept
          | _ => pure none
      | some x => do
          putStream place maker (.running left kept)
          match maker with
          | .items => pure (some x)
          | .chosen b =>
              if (<- judge b x) then pure (some x)
              else advance judge escaping fuel place maker left kept
          | .filter "map" a => do pure (some (<- mapped judge escaping fuel a x))
          | .filter "unique" a => do
              let sensitive := (streamArgument "unique" a 0 (.bool false)).truthy
              let part := streamArgument "unique" a 1 .null
              let y <- current x
              let key <- lift (do hashedKey (<- sortKey sensitive none part y))
              if Value.isAmong key kept then advance judge escaping fuel place maker left kept
              else do
                putStream place maker (.running left (kept ++ [key]))
                pure (some x)
          | .filter "batch" a =>
              let size := streamArgument "batch" a 0 .null
              if Value.equal (.int kept.length) size then do
                putStream place maker (.running left [x])
                pure (some (<- make (.ok (.list kept))))
              else advance judge escaping fuel place maker left (kept ++ [x])
          | .filter name a =>
              let (wanted, byPart) := (choosers.lookup name).getD (true, false)
              if (<- chosen judge escaping fuel byPart a x) == wanted then pure (some x)
              else advance judge escaping fuel place maker left kept
termination_by structural fuel

/-- An item put through a filter, or a part of it. -/
def mapped (judge : Judge) (escaping : Bool) (fuel : Nat) (a : Value.Arguments) (x : Value) :
    Render Value := do
  match fuel with
  | 0 => throw tooDeep
  | fuel + 1 =>
      match a.positional, a.named.lookup "attribute" with
      | [], some part =>
          let default := match a.named.lookup "default" with
            | some .null => none
            | o => o
          let x <- current x
          make (partAt default x (keysOf part))
      | f :: rest, _ => do
          applyFilter judge escaping fuel (<- lift (calledName "filter" f)) x ⟨rest, a.named⟩
      | [], none => throw (filterFault "map requires a filter argument")
termination_by structural fuel

/-- Whether an item passes the test named by the arguments of a filter; its truth when none is named. -/
def chosen (judge : Judge) (escaping : Bool) (fuel : Nat) (byPart : Bool) (a : Value.Arguments)
    (x : Value) : Render Bool := do
  match fuel with
  | 0 => throw tooDeep
  | fuel + 1 => do
      let (y, a) <- lift (lookedAt byPart a (<- current x))
      match a.positional with
      | [] => holds y
      | name :: rest => do
          testValue judge escaping fuel (<- lift (calledName "test" name)) y ⟨rest, a.named⟩
termination_by structural fuel

/-- The items that are left, the ones before them in reverse. -/
def drainFrom (judge : Judge) (escaping : Bool) (fuel : Nat) (taken : List Value) (c : Course) :
    Render (List Value) := do
  match fuel with
  | 0 => throw tooDeep
  | fuel + 1 => do
      let (x?, c) <- nextOf judge escaping fuel c
      match x? with
      | none => pure taken.reverse
      | some x => drainFrom judge escaping fuel (x :: taken) c
termination_by structural fuel

/-- All items of a value. -/
def drain (judge : Judge) (escaping : Bool) (fuel : Nat) (v : Value) : Render (List Value) := do
  match fuel with
  | 0 => throw tooDeep
  | fuel + 1 => do drainFrom judge escaping fuel [] (<- courseOf v)
termination_by structural fuel

/-- Whether a value is among the items that are left, which are taken up to it. -/
def isAhead (judge : Judge) (escaping : Bool) (fuel : Nat) (v : Value) (c : Course) :
    Render Bool := do
  match fuel with
  | 0 => throw tooDeep
  | fuel + 1 => do
      let (x?, c) <- nextOf judge escaping fuel c
      match x? with
      | none => pure false
      | some x => do
          if (<- lift (isAmongPresent v [<- current x])) then pure true
          else isAhead judge escaping fuel v c
termination_by structural fuel

/-- Whether a value is among the items of another. -/
def isMemberOf (judge : Judge) (escaping : Bool) (fuel : Nat) (v container : Value) :
    Render Bool := do
  match fuel with
  | 0 => throw tooDeep
  | fuel + 1 => do
      let v <- current v
      match container with
      | .stream _ place => isAhead judge escaping fuel v (.stream place)
      | container => do lift (isMember v (<- current container))
termination_by structural fuel

/-- Whether a value passes a test. -/
def testValue (judge : Judge) (escaping : Bool) (fuel : Nat) (name : String) (v : Value)
    (a : Value.Arguments) : Render Bool := do
  match fuel with
  | 0 => throw tooDeep
  | fuel + 1 => do
      match name, a.positional, a.named with
      | "in", [container], [] => isMemberOf judge escaping fuel v container
      | name, _, _ => do lift (applyTest name (<- current v) (<- currentArguments a))
termination_by structural fuel

/-- A value put through a filter. -/
def applyFilter (judge : Judge) (escaping : Bool) (fuel : Nat) (name : String) (v : Value)
    (a : Value.Arguments) : Render Value := do
  match fuel with
  | 0 => throw tooDeep
  | fuel + 1 =>
      match streamFilters.lookup name, name with
      | some sig, _ => do
          match sig with
          | some sig => let _ <- lift (sig.bind a)
          | none => pure ()
          newStream generatorKind (.filter name (<- currentArguments a)) (.waiting v)
      | none, "first" => do
          let _ <- lift ((filterSignature "sync_do_first" 2 [] []).bind a)
          let (x?, _) <- nextOf judge escaping fuel (<- courseOf v)
          pure (x?.getD (.undefined "No first item, sequence was empty." .strict))
      | none, "last" => do
          let _ <- lift ((filterSignature "do_last" 2 [] []).bind a)
          let v <- look v
          lift (Value.presentUse v)
          if isReversible v then do
            pure (((<- lift v.items).getLast?).getD
              (.undefined "No last item, sequence was empty." .strict))
          else throw (.badArgument s!"'{v.kind}' object is not reversible")
      | none, "reverse" => do
          let _ <- lift ((filterSignature "do_reverse" 1 [] []).bind a)
          let v <- look v
          match reversedText? v with
          | some w => pure w
          | none => do
              lift (Value.presentUse v)
              if isReversible v then backward v
              else
                match v with
                | .stream .. => do make (.ok (.list (<- drain judge escaping fuel v).reverse))
                | v =>
                    match v.items with
                    | .ok xs => make (.ok (.list xs.reverse))
                    | .error _ => throw (filterFault "argument must be iterable")
      | none, name => do
          let a <- currentArguments a
          if itemsFilters.contains name then do
            let apply (xs : List Value) : Outcome Value :=
              (itemsFilter? escaping name xs a).getD (.error (noFilter name))
            -- the arguments are looked at before the items
            if !a.positional.isEmpty || !a.named.isEmpty then
              let _ <- lift (apply [])
            let xs <- drain judge escaping fuel v
            make (apply (<- xs.mapM current))
          else do
            let v <- match name, v with
              | "urlencode", .stream .. => do
                  pure (.tuple (<- drain judge escaping fuel v))
              | _, v => current v
            let found := (textFilter? escaping name v a).orElse fun _ =>
              (valueFilter? name v a).orElse fun _ =>
                if name == "urlize" then some (linkFilter escaping v a) else none
            make (found.getD (.error (noFilter name)))
termination_by structural fuel

end

end Template

end Workflow
