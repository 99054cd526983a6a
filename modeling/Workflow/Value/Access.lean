import Workflow.Value.Format

/-!
# Reading the parts of values

Items, length, membership, subscripts and slices.
-/

namespace Workflow

namespace Value

/-- A text as the list of its characters. -/
def textItems (s : String) : List Value :=
  s.toList.map fun c => str c.toString

/-- The items a value is made of, in order; those of a dictionary are its keys. -/
def items : Value -> Outcome (List Value)
  | list xs => .ok xs
  | tuple xs => .ok xs
  | set xs => .ok xs
  | dict entries => .ok (entries.map (·.1))
  | sealed entries => .ok (entries.map (·.1))
  | str s => .ok (textItems s)
  | markup s => .ok (textItems s)
  | bytes data => .ok (data.map fun b => int b.toNat)
  | view kind owner => .ok (viewItems kind owner)
  | range start stop step => .ok (rangeItems start stop step)
  | object _ content => items content
  | undefined _ .lenient => .ok []
  | undefined hint absence => .error (absenceFault hint absence)
  | v => .error (.notIterable v.kind)

/-- The number of items of a value that has a length. -/
def length : Value -> Outcome Nat
  | list xs => .ok xs.length
  | tuple xs => .ok xs.length
  | set xs => .ok xs.length
  | dict entries => .ok entries.length
  | sealed entries => .ok entries.length
  | str s => .ok s.length
  | markup s => .ok s.length
  | bytes data => .ok data.length
  | view kind owner => .ok (viewItems kind owner).length
  | object _ content => length content
  | range start stop step => .ok (rangeLength start stop step)
  | undefined _ .lenient => .ok 0
  | undefined hint absence => .error (absenceFault hint absence)
  | v => .error (.noLength v.kind)

/-- Whether a value has a length. -/
def hasLength (v : Value) : Bool :=
  match v.length with
  | .ok _ => true
  | .error _ => false

/-- Whether `needle` occurs in `hay` as a run of consecutive characters. -/
def occursIn (needle : List Char) : List Char -> Bool
  | [] => needle.isEmpty
  | c :: rest => needle.isPrefixOf (c :: rest) || occursIn needle rest

/-- Whether a value is among the items of another. -/
def member (v container : Value) : Outcome Bool := do
  strictUse container
  match container.bare with
  | str s =>
      match v.asText? with
      | some t => .ok (occursIn t.toList s.toList)
      | none =>
          .error (.badArgument s!"'in <string>' requires string as left operand, not {v.kind}")
  | markup s =>
      match v.asText? with
      | some t => .ok (occursIn t.toList s.toList)
      | none =>
          .error (.badArgument s!"'in <string>' requires string as left operand, not {v.kind}")
  | dict entries => do
      let _ <- hashable v
      .ok (lookup? entries v).isSome
  | sealed entries => do
      let _ <- hashable v
      .ok (lookup? entries v).isSome
  | set xs => do
      let v <- soughtItem v
      .ok (isAmong v xs)
  | bytes data =>
      match v with
      | bytes part => .ok (occursIn (part.map fun b => Char.ofNat b.toNat)
          (data.map fun b => Char.ofNat b.toNat))
      | v =>
          match v.asInt? with
          | some n =>
              if 0 ≤ n && n < 256 then .ok (data.any fun b => (b.toNat : Int) == n)
              else .error (.badValue "byte must be in range(0, 256)")
          | none =>
              .error (.badArgument s!"a bytes-like object is required, not '{v.kind}'")
  | list xs => .ok (isAmong v xs)
  | tuple xs => .ok (isAmong v xs)
  | view .keys owner => do
      let _ <- hashable v
      .ok (isAmong v (viewItems .keys owner))
  | view kind owner => .ok (isAmong v (viewItems kind owner))
  | range start stop step => .ok (isAmong v (rangeItems start stop step))
  | undefined .. => .ok false
  | container => .error (.notContainer container.kind)

/-- The item at a position, counted from the end when it is negative. -/
def itemAt? (xs : List α) (n : Int) : Option α :=
  let place := if n < 0 then n + xs.length else n
  if place < 0 then none else xs[place.toNat]?

/-- The item of a sequence under a key that must be an integer. -/
def sequenceItem (xs : List Value) (key : Value) (range badKey : Fault) : Outcome Value :=
  match key.asInt? with
  | none => .error badKey
  | some n => do
      checkSize n (.other "IndexError" "cannot fit 'int' into an index-sized integer")
      match itemAt? xs n with
      | some v => .ok v
      | none => .error range

/-- The types that take the types of their items in brackets. -/
def genericTypes : List String := ["list", "tuple", "dict", "set"]

/-- The part of a value under a key or at a position. -/
def subscript (container key : Value) : Outcome Value := do
  presentUse container
  match container.bare with
  | list xs =>
      sequenceItem xs key (.indexRange "list")
        (.badArgument s!"list indices must be integers or slices, not {key.kind}")
  | tuple xs =>
      sequenceItem xs key (.indexRange "tuple")
        (.badArgument s!"tuple indices must be integers or slices, not {key.kind}")
  | str s =>
      sequenceItem (textItems s) key (.indexRange "string")
        (.badArgument s!"string indices must be integers, not '{key.kind}'")
  | markup s =>
      sequenceItem (textItems s) key (.indexRange "string")
        (.badArgument s!"string indices must be integers, not '{key.kind}'")
  | bytes data =>
      sequenceItem (data.map fun b => int b.toNat) key (.other "IndexError" "index out of range")
        (.badArgument s!"byte indices must be integers or slices, not {key.kind}")
  | range start stop step =>
      match key.asInt? with
      | none => .error (.badArgument s!"range indices must be integers or slices, not {key.kind}")
      | some n =>
          match itemAt? (rangeItems start stop step) n with
          | some v => .ok v
          | none => .error (.indexRange "range object")
  | dict entries => do
      let _ <- hashable key
      match lookup? entries key with
      | some v => .ok v
      | none => .error (.keyAbsent key.literal)
  | sealed entries => do
      let _ <- hashable key
      match lookup? entries key with
      | some v => .ok v
      | none => .error (.keyAbsent key.literal)
  | converter name =>
      if genericTypes.contains name then .ok (foreign "types.GenericAlias")
      else .error (.badArgument s!"type '{name}' is not subscriptable")
  | container => .error (.notSubscriptable container.kind)

/-! ## Slices -/

/-- The bounds of a slice, each of which may be left out. -/
structure Slice where
  lower : Value
  upper : Value
  step : Value

/-- A bound of a slice as an integer; `none` when it is left out. -/
def sliceBound (v : Value) : Outcome (Option Int) :=
  match v with
  | null => .ok none
  | v =>
      match v.asInt? with
      | some n => .ok (some n)
      | none =>
          .error (.badArgument
            "slice indices must be integers or None or have an __index__ method")

/-- The first position a slice selects from a sequence of a given length, and the one it ends before. -/
def sliceEnds (lower upper step : Option Int) (size : Nat) : Int × Int :=
  let n : Int := size
  let clamp (low high : Int) (k : Int) : Int :=
    let k := if k < 0 then k + n else k
    max low (min high k)
  if 0 < step.getD 1 then
    ((lower.map (clamp 0 n)).getD 0, (upper.map (clamp 0 n)).getD n)
  else
    ((lower.map (clamp (-1) (n - 1))).getD (n - 1), (upper.map (clamp (-1) (n - 1))).getD (-1))

/-- The positions a slice selects from a sequence of a given length, in order. -/
def slicePositions (lower upper step : Option Int) (size : Nat) : List Nat :=
  let (start, stop) := sliceEnds lower upper step size
  let step := step.getD 1
  (List.range (rangeLength start stop step)).map fun (i : Nat) => (start + (i : Int) * step).toNat

/-- The items a slice selects. -/
def sliceItems (xs : List α) (lower upper step : Option Int) : List α :=
  let items := xs.toArray
  (slicePositions lower upper step items.size).filterMap fun i => items[i]?

/-- The part of a sequence a slice selects. -/
def slice (container : Value) (s : Slice) : Outcome Value := do
  presentUse container
  let cut (xs : List Value) : Outcome (List Value) := do
    let lower <- sliceBound s.lower
    let upper <- sliceBound s.upper
    let step <- sliceBound s.step
    if step == some 0 then .error (.badValue "slice step cannot be zero")
    else .ok (sliceItems xs lower upper step)
  let cutText (t : String) : Outcome String := do
    let parts <- cut (textItems t)
    .ok (String.join (parts.filterMap asText?))
  match container.bare with
  | list xs => do .ok (list (<- cut xs))
  | tuple xs => do .ok (tuple (<- cut xs))
  | str t => do .ok (str (<- cutText t))
  | markup t => do .ok (markup (<- cutText t))
  | bytes data => do
      let parts <- cut (data.map fun b => int b.toNat)
      .ok (bytes (parts.filterMap fun v => v.asInt?.map fun n => UInt8.ofNat n.toNat))
  | range start stop step => do
      let lower <- sliceBound s.lower
      let upper <- sliceBound s.upper
      let stride <- sliceBound s.step
      if stride == some 0 then .error (.badValue "slice step cannot be zero")
      else
        let size := rangeLength start stop step
        let (first, last) := sliceEnds lower upper stride size
        .ok (range (start + first * step) (start + last * step) (step * stride.getD 1))
  | converter name =>
      if genericTypes.contains name then .ok (foreign "types.GenericAlias")
      else .error (.badArgument s!"type '{name}' is not subscriptable")
  | dict _ => .error (.unhashable "slice")
  | sealed _ => .error (.unhashable "slice")
  | container => .error (.notSubscriptable container.kind)

end Value

end Workflow
