import Workflow.Value.Method.Text
import Workflow.Value.Method.Collection
import Workflow.Value.Method.Scalar
import Workflow.Value.Objects

/-!
# Attributes and calls

What can be read from a value by name, and what happens when a function, a type or a
method is called.  A method that changes its receiver changes it wherever it is shared.
-/

namespace Workflow

namespace Value

/-! ## Attributes -/

/-- The names of the methods of a value. -/
def methodNames : Value -> List String
  | str _ => textMethods
  | markup _ => textMethods
  | list _ => listMethods
  | tuple _ => tupleMethods
  | dict _ => dictMethods
  | sealed _ => sealedMethods
  | set _ => setMethods
  | int _ => intMethods
  | bool _ => intMethods
  | .float _ => floatMethods
  | complex .. => complexMethods
  | bytes _ => bytesMethods
  | datetime _ => datetimeMethods
  | date _ => dateMethods
  | span _ => spanMethods
  | range .. => ["count", "index"]
  | view .keys _ => ["isdisjoint"]
  | view .items _ => ["isdisjoint"]
  | object _ content => methodNames content
  | _ => []

/-- The names of the methods that values of a type have. -/
def typeMethods : String -> List String
  | "str" => textMethods
  | "list" => listMethods
  | "tuple" => tupleMethods
  | "dict" => dictMethods
  | "set" => setMethods
  | "int" => intMethods
  | "bool" => intMethods
  | "float" => floatMethods
  | _ => []

/-- The names of the data that values of a type have. -/
def typeData : String -> List String
  | "int" => ["real", "imag", "numerator", "denominator"]
  | "bool" => ["real", "imag", "numerator", "denominator"]
  | "float" => ["real", "imag"]
  | _ => []

/-- What a value has under a name: data, or a method that has not been called yet. -/
def attribute? (v : Value) (name : String) : Option Value :=
  match scalarAttribute? v name with
  | some w => some w
  | none =>
      match v with
      | converter kind =>
          if (typeMethods kind).contains name then some (method v name)
          else if (typeData kind).contains name then some (foreign "getset_descriptor")
          else none
      | view _ owner =>
          if name == "mapping" then some (sealed (owner.entries?.getD []))
          else if v.methodNames.contains name then some (method v name)
          else none
      | v => if v.methodNames.contains name then some (method v name) else none

/-! ## Converters -/

/-- Read an integer from a text in a base. -/
def intOfText (base : Nat) (s : String) (v : Value) : Outcome Value :=
  let literal := (v.literal.take 200).toString
  match Number.readInt base s with
  | .value n => .ok (int n)
  | .tooLong digits =>
      .error (.badValue
        s!"Exceeds the limit (4300 digits) for integer string conversion: value has {digits} digits; use sys.set_int_max_str_digits() to increase the limit")
  | .invalid =>
      .error (.badValue s!"invalid literal for int() with base {base}: {literal}")

/-- A double cut to an integer. -/
def intOfFloat (x : Float) : Outcome Value :=
  match Number.truncFloat? x with
  | some n => .ok (int n)
  | none =>
      if x.isNaN then .error (.badValue "cannot convert float NaN to integer")
      else .error (.overflow "cannot convert float infinity to integer")

/-- Convert a value to an integer. -/
def toInt (v : Value) : Outcome Value :=
  match v.bare with
  | str s => intOfText 10 s v
  | markup s => intOfText 10 s (str s)
  | bytes data => intOfText 10 (String.ofList (charsOfBytes data)) v
  | .float x => intOfFloat x
  | v =>
      match v.asInt? with
      | some n => .ok (int n)
      | none =>
          .error (.badArgument
            s!"int() argument must be a string, a bytes-like object or a real number, not '{v.kind}'")

/-- Convert a value to a double. -/
def toFloat (v : Value) : Outcome Value :=
  let ofText (s literal : String) : Outcome Value :=
    match Number.readFloat? s with
    | some x => .ok (.float x)
    | none => .error (.badValue s!"could not convert string to float: {literal}")
  match v.bare with
  | str s => ofText s v.literal
  | markup s => ofText s (str s).literal
  | bytes data => ofText (String.ofList (charsOfBytes data)) v.literal
  | .float _ => .ok v
  | w =>
      match w.asNumber? with
      | some n => do .ok (.float (<- n.toFloat))
      | none =>
          .error (.badArgument
            s!"float() argument must be a string or a real number, not '{v.kind}'")

/-- Convert a value to a text, decoding it when an encoding or a way to go on is named. -/
def toText (a : Arguments) : Outcome Value := do
  a.atMost "str" 3
  a.onlyNamed "str" ["object", "encoding", "errors"]
  let encoding <- (a.at? 1 "encoding").mapM (namingArgument "str" "encoding")
  let recovery <- (a.at? 2 "errors").mapM (namingArgument "str" "errors")
  match a.at? 0 "object" with
  | none => .ok (str "")
  | some v =>
      if encoding.isNone && recovery.isNone then do .ok (str (<- textOf v))
      else
        match v with
        | bytes data => decodeBytes data (encoding.getD "utf-8") (recovery.getD "strict")
        | v =>
            if v.asText?.isSome then .error (.badArgument "decoding str is not supported")
            else
              .error (.badArgument
                s!"decoding to str: need a bytes-like object, {v.kind} found")

/-- At most one argument, none of them named. -/
def optionalArgument (a : Arguments) (name : String) : Outcome (Option Value) := do
  .ok (<- a.between name name 0 1).head?

/-- The set of some items, each of which is in it once. -/
def makeSet (xs : List Value) : Outcome Value := do
  .ok (set (inSetOrder ((<- xs.mapM hashable).foldl addItem [])))

/-- Call a type. -/
def convert (name : String) (a : Arguments) : Outcome Value := do
  match name with
  | "str" => toText a
  | "int" => do
      a.atMost "int" 2
      a.onlyNamed "int" ["base"]
      match a.positional[0]?, a.at? 1 "base" with
      | none, none => .ok (int 0)
      | none, some _ => .error (.badArgument "int() missing string argument")
      | some v, none => toInt v
      | some v, some b => do
          let base <- indexArgument b
          if base != 0 && (base < 2 || 36 < base) then
            .error (.badValue "int() base must be >= 2 and <= 36, or 0")
          else
            match v with
            | str s => intOfText base.toNat s v
            | markup s => intOfText base.toNat s (str s)
            | bytes data => intOfText base.toNat (String.ofList (charsOfBytes data)) v
            | _ => .error (.badArgument "int() can't convert non-string with explicit base")
  | "float" => do
      match (<- optionalArgument a name) with
      | none => .ok (.float 0.0)
      | some v => toFloat v
  | "bool" => do
      match (<- optionalArgument a name) with
      | none => .ok (bool false)
      | some v => do
          strictUse v
          .ok (bool v.truthy)
  | "list" => do
      match (<- optionalArgument a name) with
      | none => .ok (list [])
      | some v => do .ok (list (<- v.items))
  | "tuple" => do
      match (<- optionalArgument a name) with
      | none => .ok (tuple [])
      | some v => do .ok (tuple (<- v.items))
  | "set" => do
      match (<- optionalArgument a name) with
      | none => .ok (set [])
      | some v => do makeSet (<- v.items)
  | "dict" => do
      .ok (dict (insertAll [] (<- updateEntries a "dict")))
  | name => .error (.notCallable name)

/-! ## Functions -/

/-- The sum of items added to a start one after another. -/
def sumItems (xs : List Value) (start : Value) : Outcome Value :=
  match start.bare with
  | str _ => .error (.badArgument "sum() can't sum strings [use ''.join(seq) instead]")
  | bytes _ => .error (.badArgument "sum() can't sum bytes [use b''.join(seq) instead]")
  | _ => xs.foldlM (binary .add) start

/-- The absolute value of a number. -/
def absolute (v : Value) : Outcome Value :=
  match v.bare with
  | .float x => .ok (.float x.abs)
  | complex re im =>
      let x := Number.Complex.abs ⟨re, im⟩
      if x.isInf && re.isFinite && im.isFinite then
        .error (.overflow "absolute value too large")
      else .ok (.float x)
  | span n => makeSpan n.natAbs
  | v =>
      match v.asInt? with
      | some n => .ok (int n.natAbs)
      | none => .error (.badOperand "abs()" v.kind)

/-- Round a number to an integer, or to a number of decimal places. -/
def roundNumber (v places : Value) : Outcome Value := do
  match v.bare with
  | .float x =>
      match places with
      | null =>
          match Number.roundToInt? x with
          | some n => .ok (int n)
          | none => intOfFloat x
      | p => do
          let n <- indexArgument p
          match Number.roundPlaces x n with
          | some y => .ok (.float y)
          | none => .error (.overflow "rounded value too large to represent")
  | v =>
      match v.asInt? with
      | none => .error (.badArgument s!"type {v.kind} doesn't define __round__ method")
      | some n =>
          match places with
          | null => .ok (int n)
          | p => do
              let k <- indexArgument p
              .ok (int (if 0 ≤ k then n else Number.roundToPower n (-k).toNat))

/-- How a key is made of an item: by a function that may change values, or the item itself. -/
def keyOf (apply : Value -> Value -> Action Value) (a : Arguments) (v : Value) : Action Value :=
  match a.named.lookup "key" with
  | none => pure v
  | some null => pure v
  | some f => apply f v

/-- The extreme item: each item replaces the one kept so far when its key stands in the relation to the kept one. -/
def extremeItem (r : Relation) (key : Value -> Action Value) (xs : List Value) :
    Action (Option Value) := do
  match xs with
  | [] => pure none
  | x :: rest =>
      let best <- rest.foldlM
        (fun (best : Value × Value) y => do
          let k <- key y
          if (<- Action.of (related r k best.2)) then pure (y, k) else pure best)
        (x, (<- key x))
      pure (some best.1)

/-- The least or greatest of one collection's items or of several arguments. -/
def extremeOf (apply : Value -> Value -> Action Value) (name : String) (r : Relation)
    (a : Arguments) : Action Value := do
  Action.of (a.onlyNamed name ["key", "default"])
  match a.positional with
  | [] => throw (.badArgument s!"{name} expected at least 1 argument, got 0")
  | [v] => do
      match (<- extremeItem r (keyOf apply a) (<- Action.of v.items)), a.named.lookup "default" with
      | some best, _ => pure best
      | none, some default => pure default
      | none, none => throw (.badValue s!"{name}() arg is an empty sequence")
  | xs =>
      if (a.named.lookup "default").isSome then
        throw (.badArgument
          s!"Cannot specify a default for {name}() with multiple positional arguments")
      else do
        pure ((<- extremeItem r (keyOf apply a) xs).getD null)

/-- Items sorted as the named arguments say. -/
def sortItems (apply : Value -> Value -> Action Value) (xs : List Value) (a : Arguments) :
    Action (List Value) := do
  Action.of (Arguments.atMost ⟨[], a.named⟩ "sort" 2)
  Action.of (Arguments.onlyNamed ⟨[], a.named⟩ "sort" ["key", "reverse"])
  let descending <- Action.of (flagArgument ((a.named.lookup "reverse").getD (bool false)))
  let keyed <- xs.mapM fun x => do pure ((<- keyOf apply a x), x)
  Action.of (sortKeyed descending keyed)

/-- The one argument of a function that changes case. -/
def caseArgument (a : Arguments) : Outcome Value :=
  match a.positional, a.named with
  | [v], [] => .ok v
  | [], [("value", v)] => .ok v
  | [], [] => .error (.badArgument "<lambda>() missing 1 required positional argument: 'value'")
  | _, (n, _) :: _ => .error (.badArgument s!"<lambda>() got an unexpected keyword argument '{n}'")
  | xs, [] =>
      .error (.badArgument
        s!"<lambda>() takes 1 positional argument but {xs.length} were given")

/-- Call a function that takes no other function. -/
def applyFunction (name : String) (a : Arguments) : Outcome Value := do
  match name with
  | "len" => do .ok (int (<- (<- a.one name).length))
  | "abs" => do absolute (<- a.one name)
  | "lower" => do .ok (ofChars (Text.lower (<- textOf (<- caseArgument a)).toList))
  | "upper" => do .ok (ofChars (Text.upper (<- textOf (<- caseArgument a)).toList))
  | "round" => do
      a.atMost name 2
      a.onlyNamed name ["number", "ndigits"]
      match a.at? 0 "number" with
      | none => .error (.badArgument "round() missing required argument 'number' (pos 1)")
      | some v => roundNumber v ((a.at? 1 "ndigits").getD null)
  | "sum" => do
      if a.positional.isEmpty then
        .error (.badArgument "sum() takes at least 1 positional argument (0 given)")
      else do
        a.atMost name 2
        a.onlyNamed name ["start"]
        let xs <- (a.positional.headD null).items
        sumItems xs ((a.at? 1 "start").getD (int 0))
  | name => .error (.notCallable name)

/-- Call a named function; `apply` calls the function given as a sorting key. -/
def callFunction (apply : Value -> Value -> Action Value) (name : String) (a : Arguments) :
    Action Value := do
  match name with
  | "min" => extremeOf apply name .lt a
  | "max" => extremeOf apply name .gt a
  | "sorted" =>
      match a.positional with
      | [v] => do pure (list (<- sortItems apply (<- Action.of v.items) a))
      | xs => throw (.badArgument s!"sorted expected 1 argument, got {xs.length}")
  | name => Action.of (applyFunction name a)

/-! ## Calls -/

/-- The outcome of a method of a value, with what the value holds afterwards when that changes. -/
def applyMethod (v : Value) (name : String) (a : Arguments) : Outcome Change :=
  let absent : Outcome Change := .error (.noAttribute v.kind name)
  let keep (r : Option (Outcome Value)) : Outcome Change :=
    match r with
    | some r => do .ok ((<- r), none)
    | none => absent
  match v.bare with
  | str s => keep (callText? s name a)
  | markup s => keep (callText? s name a)
  | list xs => (callList? xs name a).getD absent
  | tuple xs => keep (callTuple? xs name a)
  | range start stop step => keep (callRange? start stop step name a)
  | dict entries => (callDict? v entries name a).getD absent
  | sealed entries =>
      if sealedMethods.contains name then (callDict? v entries name a).getD absent else absent
  | set xs => (callSet? xs name a).getD absent
  | view kind owner => keep (callView? (viewItems kind owner) v.kind name a)
  | .float x => keep (callFloat? x name a)
  | complex re im => keep (callComplex? re im name a)
  | bytes data => keep (callBytes? data name a)
  | datetime t => keep (callDatetime? t name a)
  | date d => keep (callDate? d name a)
  | span n => keep (callSpan? n name a)
  | w =>
      match w.asInt? with
      | some n =>
          if name == "from_bytes" && w.kind == "bool" then do
            .ok (bool (<- intOfBytes a).truthy, none)
          else keep (callInt? n name a)
      | none => absent

/-- Methods that compare what their receiver holds with other values. -/
def comparingMethods : List String :=
  ["count", "index", "remove", "sort"]

/-- Call a method of a value. -/
def callMethod (apply : Value -> Value -> Action Value) (v : Value) (name : String)
    (a : Arguments) : Action Value := do
  let v <- if comparingMethods.contains name then Action.current v else Action.look v
  match v.bare, name with
  | list xs, "sort" => do
      Action.of (a.atMost name 2)
      if !a.positional.isEmpty then
        throw (.badArgument "sort() takes no positional arguments")
      else do
        Action.change v (list (<- sortItems apply xs a))
        pure null
  | _, _ => do
      let (result, content) <- Action.of (applyMethod v name a)
      match content with
      | some content => Action.change v content
      | none => pure ()
      pure result

/-- Whether a value is one of a type, or of a type derived from it. -/
def isOfType (v : Value) (type : String) : Bool :=
  v.kind == type || (type == "int" && v.kind == "bool") || (type == "str" && v.kind == "Markup")

/-- The methods of types that need no receiver, with a receiver to stand for one. -/
def freeMethods : List (String × Value) :=
  [("fromkeys", dict []), ("maketrans", str ""), ("from_bytes", int 0), ("fromhex", .float 0.0)]

/-- Call a method taken from a type: the first argument is the receiver. -/
def callTypeMethod (apply : Value -> Value -> Action Value) (type name : String)
    (a : Arguments) : Action Value :=
  match freeMethods.lookup name with
  | some receiver => callMethod apply (if type == "bool" then bool false else receiver) name a
  | none =>
      match a.positional with
      | [] => throw (.badArgument s!"unbound method {type}.{name}() needs an argument")
      | v :: rest =>
          if v.isOfType type then callMethod apply v name ⟨rest, a.named⟩
          else
            throw (.badArgument
              s!"descriptor '{name}' for '{type}' objects doesn't apply to a '{v.kind}' object")

/-- Call a value; `apply` calls a function given as a sorting key. -/
def callWith (apply : Value -> Value -> Action Value) (f : Value) (a : Arguments) :
    Action Value :=
  match f with
  | function name => callFunction apply name a
  | converter name => Action.of (convert name a)
  | method (converter type) name => callTypeMethod apply type name a
  | method v name => callMethod apply v name a
  | undefined hint absence => throw (absenceFault hint absence)
  | f => throw (.notCallable f.kind)

/-- Call a function with one argument; it has no sorting key of its own. -/
def applyOne (f x : Value) : Action Value :=
  callWith (fun f _ => throw (.notCallable f.kind)) f (.of [x])

/-- Call a value. -/
def call (f : Value) (a : Arguments) : Action Value :=
  callWith applyOne f a

end Value

end Workflow
