import Workflow.Template.Predicate
import Workflow.Template.Link

/-!
# Filters of collections

Filters that compute from all items of their subject at once, and what the filters that
give items one after another do with each of them.
-/

namespace Workflow

namespace Template

/-- The fault of arguments a filter has no use for. -/
def filterFault (text : String) : Fault :=
  .other "FilterArgumentError" text

/-- The fault of a name that no filter has. -/
def noFilter (name : String) : Fault :=
  let quoted := Text.quoted name
  .other "TemplateRuntimeError" s!"No filter named {quoted}."

/-- The text of an argument that names a filter or a test. -/
def calledName (word : String) (v : Value) : Outcome String :=
  match v.asText? with
  | some s => .ok s
  | none => .error (.other "TemplateRuntimeError" s!"No {word} named {v.literal}.")

/-! ## Keys of items -/

/-- Texts in small letters; other values as they are. -/
def foldCase (v : Value) : Value :=
  match v with
  | .str s => .str (String.ofList (Text.lower s.toList))
  | .markup s => .markup (String.ofList (Text.lower s.toList))
  | v => v

/-- The value items are compared by: a part of them, its case ignored if asked for. -/
def sortKey (caseSensitive : Bool) (default : Option Value) (part item : Value) :
    Outcome Value := do
  let v <- partAt default item (keysOf part)
  .ok (if caseSensitive then v else foldCase v)

/-- The values items are sorted by: one for each of the parts named between commas. -/
def sortKeys (caseSensitive : Bool) (part item : Value) : Outcome Value := do
  let names := match part with
    | .str s => (Text.splitAll [','] s.length s.toList).map fun cs => Value.str (String.ofList cs)
    | v => [v]
  .ok (.list (<- names.mapM fun name => sortKey caseSensitive none name item))

/-- A key that can be looked for among others, which has to exist. -/
def hashedKey (v : Value) : Outcome Value := do
  Value.strictUse v
  Value.hashable v

/-! ## Runs and columns -/

/-- Items filled up to a number given by a value; `null` fills nothing. -/
def filledUp (size fill : Value) (run : List Value) : Outcome (List Value) := do
  match fill with
  | .null => .ok run
  | v =>
      if (<- Value.related .lt (.int run.length) size) then
        match <- Value.operate .sub size (.int run.length) with
        | .int n => .ok (run ++ List.replicate n.toNat v)
        | w => .error (.badArgument s!"can't multiply sequence by non-int of type '{w.kind}'")
      else .ok run

/-- A number that a value must be, for counting. -/
def countOf (v : Value) : Outcome Int := do
  Value.presentUse v
  Value.indexArgument v

/-- Items spread over columns whose number is a value, the longer ones first. -/
def columns (slices fill : Value) (xs : List Value) : Outcome (List Value) := do
  let size <- Value.operate .floorDiv (.int xs.length) slices
  let extra <- Value.operate .rem (.int xs.length) slices
  let count <- countOf slices
  let size := (size.asInt?.getD 0).toNat
  let extra := (extra.asInt?.getD 0).toNat
  .ok ((List.range count.toNat).map fun i =>
    let start := i * size + min i extra
    let column := (xs.drop start).take (size + if i < extra then 1 else 0)
    let padding := match fill with
      | .null => []
      | v => if extra ≤ i then [v] else []
    .list (column ++ padding))

/-! ## Groups and orders -/

/-- Neighbouring items with equal keys, put together. -/
def groups : List (Value × Value) -> List (Value × List Value)
  | [] => []
  | (k, x) :: rest =>
      match groups rest with
      | (l, xs) :: more => if k.equal l then (k, x :: xs) :: more else (k, [x]) :: (l, xs) :: more
      | [] => [(k, [x])]

/-- The entries of a dictionary in the order of its keys or of its values. -/
def sortedEntries (v caseSensitive by' reverse : Value) : Outcome Value := do
  let place <- match by' with
    | .str "key" => pure 0
    | .str "value" => pure 1
    | _ => .error (filterFault "You can only sort by either \"key\" or \"value\"")
  match v.entries? with
  | some entries => do
      let pairs := entries.map fun (k, w) => Value.tuple [k, w]
      let key (p : Value) : Outcome Value := do
        let w <- Value.subscript p (.int place)
        .ok (if caseSensitive.truthy then w else foldCase w)
      .ok (.list (<- Value.sortValues key reverse.truthy pairs))
  | none => .error (.noAttribute v.plainKind "items")

/-- Round a number in one of three ways. -/
def rounded (v places method : Value) : Outcome Value := do
  let m <- match method.asText? with
    | some s =>
        if ["common", "ceil", "floor"].contains s then pure s
        else .error (filterFault "method must be common, ceil or floor")
    | none => .error (filterFault "method must be common, ceil or floor")
  Value.presentUse v
  if m == "common" then Value.roundNumber v places
  else do
    let factor <- Value.operate .pow (.int 10) places
    let scaled <- Value.operate .mul v factor
    let whole <- match scaled.bare with
      | .float x =>
          match Number.truncFloat? x with
          | some n =>
              let back := Number.compareIntFloat n x
              pure (if m == "ceil" then (if back == some .lt then n + 1 else n)
                else if back == some .gt then n - 1 else n)
          | none => do
              match <- Value.intOfFloat x with
              | .int n => pure n
              | _ => pure 0
      | w =>
          match w.asInt? with
          | some n => pure n
          | none => .error (.badArgument s!"must be real number, not {w.plainKind}")
    Value.operate .div (.int whole) factor

/-- The texts of items with a separator between them; where values are escaped, markup among them makes markup. -/
def joined (escaping : Bool) (separator : Value) (xs : List Value) : Outcome Value := do
  let isMarkup (v : Value) : Bool := match v with
    | .markup _ => true
    | _ => false
  if escaping && (isMarkup separator || xs.any isMarkup) then do
    let parts <- xs.mapM escaped
    .ok (.markup ((<- escaped separator).intercalate parts))
  else
    let s <- plainText separator
    let parts <- xs.mapM plainText
    .ok (.str (s.intercalate parts))

/-- The extreme of some items by their keys; a value that does not exist when there are none. -/
def extreme (r : Relation) (key : Value -> Outcome Value) (xs : List Value) : Outcome Value := do
  match xs with
  | [] => .ok (.undefined "No aggregated item, sequence was empty." .strict)
  | x :: rest => do
      let best <- rest.foldlM
        (fun (best : Value × Value) y => do
          let k <- key y
          if (<- relatedValues r k best.2) then .ok (y, k) else .ok best)
        (x, (<- key x))
      .ok best.1

/-! ## Application -/

/-- The signature of a filter of collections. -/
def filterSignature (name : String) (hidden : Nat) (required optional : List String) : Signature :=
  ⟨name, hidden, required, optional⟩

/-- Parts of items, or the items themselves when no part is named. -/
def partsOf (part : Value) (xs : List Value) : Outcome (List Value) :=
  match part with
  | .null => .ok xs
  | part => xs.mapM fun x => partAt none x (keysOf part)

/-- Apply a filter that goes through all items; `none` when the name is not one. -/
def itemsFilter? (escaping : Bool) (name : String) (xs : List Value) (a : Value.Arguments) :
    Option (Outcome Value) :=
  let sig := filterSignature
  let extremeBy (label : String) (r : Relation) : Outcome Value := do
    let b <- (sig label 2 [] ["case_sensitive", "attribute"]).bind a
    extreme r (sortKey (argument b 0 (.bool false)).truthy none (argument b 1 .null)) xs
  match name with
  | "list" => some do
      let _ <- (sig "sync_do_list" 1 [] []).bind a
      .ok (.list xs)
  | "join" => some do
      let b <- (sig "sync_do_join" 2 [] ["d", "attribute"]).bind a
      joined escaping (argument b 0 (.str "")) (<- partsOf (argument b 1 .null) xs)
  | "sum" => some do
      let b <- (sig "sync_do_sum" 2 [] ["attribute", "start"]).bind a
      let xs <- partsOf (argument b 0 .null) xs
      xs.forM Value.presentUse
      Value.sumItems xs (argument b 1 (.int 0))
  | "min" => some (extremeBy "do_min" .lt)
  | "max" => some (extremeBy "do_max" .gt)
  | "sort" => some do
      let b <- (sig "do_sort" 2 [] ["reverse", "case_sensitive", "attribute"]).bind a
      let key := sortKeys (argument b 1 (.bool false)).truthy (argument b 2 .null)
      let descending <- Value.flagArgument (argument b 0 (.bool false))
      .ok (.list (<- Value.sortValues key descending xs))
  | "groupby" => some do
      let b <- (sig "sync_do_groupby" 2 ["attribute"] ["default", "case_sensitive"]).bind a
      let part := argument b 0 .null
      let default := match argument b 1 .null with
        | .null => none
        | d => some d
      let sensitive := (argument b 2 (.bool false)).truthy
      let key := sortKey sensitive default part
      let sorted <- Value.sortValues key false xs
      let keyed <- sorted.mapM fun x => do pure ((<- key x), x)
      let parts <- (groups keyed).mapM fun (k, xs) => do
        let shown <- match xs with
          | x :: _ => sortKey true default part x
          | [] => pure k
        pure (Value.tuple [shown, .list xs])
      .ok (.list parts)
  | _ => none

/-- Filters that go through all items of their subject. -/
def itemsFilters : List String :=
  ["list", "join", "sum", "min", "max", "sort", "groupby"]

/-- Apply a filter of whole values; `none` when the name is not one. -/
def valueFilter? (name : String) (v : Value) (a : Value.Arguments) : Option (Outcome Value) :=
  let sig := filterSignature
  match name with
  | "default" => some do
      let b <- (sig "or_default" 1 [] ["fallback"]).bind a
      match v with
      | .null => .ok (argument b 0 (.str ""))
      | v => .ok v
  | "d" => some do
      let b <- (sig "do_default" 1 [] ["default_value", "boolean"]).bind a
      let other := argument b 0 (.str "")
      match v with
      | .undefined .. => .ok other
      | v => .ok (if (argument b 1 (.bool false)).truthy && !v.truthy then other else v)
  | "length" => some do
      let _ <- (sig "len" 1 [] []).bind a
      .ok (.int (<- v.length))
  | "count" => some do
      let _ <- (sig "len" 1 [] []).bind a
      .ok (.int (<- v.length))
  | "random" => some do
      let _ <- v.length
      let xs <- v.items
      .ok (xs.headD (.undefined "No random item, sequence was empty." .strict))
  | "dictsort" => some do
      let b <- (sig "do_dictsort" 1 [] ["case_sensitive", "by", "reverse"]).bind a
      Value.presentUse v
      sortedEntries v (argument b 0 (.bool false)) (argument b 1 (.str "key"))
        (argument b 2 (.bool false))
  | "round" => some do
      let b <- (sig "do_round" 1 [] ["precision", "method"]).bind a
      rounded v (argument b 0 (.int 0)) (argument b 1 (.str "common"))
  | "attr" => some do
      let b <- (sig "do_attr" 2 ["name"] []).bind a
      let n := argument b 0 .null
      match n.asText? with
      | some n => attributeByName v n
      | none => .error (.badArgument s!"attribute name must be string, not '{n.kind}'")
  | _ => none

/-- A text turned round; `none` for other values. -/
def reversedText? (v : Value) : Option Value :=
  match v with
  | .str s => some (.str (String.ofList s.toList.reverse))
  | .markup s => some (.markup (String.ofList s.toList.reverse))
  | _ => none

end Template

end Workflow
