import Workflow.Calendar

/-!
# Data values

The values that definitions, inputs, step outputs, expressions and templates work
on.  A dictionary is its list of entries in insertion order.
-/

namespace Workflow

/-- Which part of a dictionary a view shows. -/
inductive ViewKind where
  | keys
  | values
  | items
  deriving Repr, DecidableEq

/-- Why and how strictly a value does not exist. -/
inductive Absence where
  /-- It counts as empty text, but has no parts. -/
  | lenient
  /-- It may not be used. -/
  | strict
  /-- It may not be used, since it would have led to something restricted. -/
  | restricted
  deriving Repr, DecidableEq

/--
The mark by which a changeable value is known.  What it holds may change; its mark does
not, and no two values have the same one.
-/
structure Mark where
  /-- Whether the value is one of those a caller added to a context. -/
  added : Bool
  number : Nat
  deriving Repr, DecidableEq

/-- What a value held in the memory of a running template is. -/
inductive SlotKind where
  | namespace
  | template
  | caller
  | loop
  | cycler
  | joiner
  deriving Repr, DecidableEq

/--
A value.  The constructors up to `date` are data; the others arise only while an
expression or a template is evaluated.  Collections in data have no marks, and are
marked when an evaluation first sees them.
-/
inductive Value where
  | null
  | bool (b : Bool)
  | int (n : Int)
  | float (x : Float)
  | str (s : String)
  | list (items : List Value)
  | tuple (items : List Value)
  | dict (entries : List (Value × Value))
  /-- A dictionary that can only be read. -/
  | sealed (entries : List (Value × Value))
  | set (items : List Value)
  | bytes (data : List UInt8)
  | datetime (t : DateTime)
  | date (d : Date)
  /-- A changeable value, or a number unequal to itself, with what it held when last looked at. -/
  | object (mark : Mark) (content : Value)
  | complex (re im : Float)
  /-- A span of time in microseconds. -/
  | span (microseconds : Int)
  /-- A function of the language, by name. -/
  | function (name : String)
  /-- A type of values, which converts when it is called. -/
  | converter (name : String)
  /-- A method taken from a value without being called. -/
  | method (receiver : Value) (name : String)
  /-- A view of a dictionary, which shows it as it is when the view is looked at. -/
  | view (kind : ViewKind) (owner : Value)
  | range (start stop step : Int)
  /-- A sequence that is computed item by item, by the name of its type and its place in the template's memory. -/
  | stream (kind : String) (place : Nat)
  /-- A text that is already safe to show inside markup. -/
  | markup (s : String)
  /-- A value that does not exist, and what to say when it is used. -/
  | undefined (hint : String) (absence : Absence)
  /-- A mutable value of a running template, by its place in the template's memory. -/
  | slot (kind : SlotKind) (place : Nat)
  /-- A value of which only the type is known. -/
  | foreign (kind : String)
  deriving Repr, Inhabited

namespace Value

/-- The name of a value's type, as it appears in error messages. -/
def kind : Value -> String
  | null => "NoneType"
  | bool _ => "bool"
  | int _ => "int"
  | float _ => "float"
  | str _ => "str"
  | list _ => "list"
  | tuple _ => "tuple"
  | dict _ => "dict"
  | sealed _ => "mappingproxy"
  | set _ => "set"
  | bytes _ => "bytes"
  | datetime _ => "datetime.datetime"
  | date _ => "datetime.date"
  | object _ content => kind content
  | complex .. => "complex"
  | span _ => "datetime.timedelta"
  | function name => if name == "lower" || name == "upper" then "function" else "builtin_function_or_method"
  | converter _ => "type"
  | method .. => "builtin_function_or_method"
  | view .keys _ => "dict_keys"
  | view .values _ => "dict_values"
  | view .items _ => "dict_items"
  | range .. => "range"
  | stream kind _ => kind
  | markup _ => "Markup"
  | undefined _ .lenient => "Undefined"
  | undefined .. => "StrictUndefined"
  | slot .namespace _ => "Namespace"
  | slot .template _ => "Macro"
  | slot .caller _ => "Macro"
  | slot .loop _ => "LoopContext"
  | slot .cycler _ => "Cycler"
  | slot .joiner _ => "Joiner"
  | foreign kind => kind

/-- The name of a value's type without the module it is from. -/
def plainKind (v : Value) : String :=
  String.ofList (v.kind.toList.reverse.takeWhile (· != '.')).reverse

/-- What a value holds, without its mark. -/
def bare : Value -> Value
  | object _ content => content
  | v => v

/-- The mark of a value that has one. -/
def mark? : Value -> Option Mark
  | object mark _ => some mark
  | _ => none

/-- The entries of a dictionary. -/
def entries? : Value -> Option (List (Value × Value))
  | dict entries => some entries
  | sealed entries => some entries
  | object _ content => entries? content
  | _ => none

/-- A text, or nothing. -/
def ofText? (s : Option String) : Value :=
  match s with
  | some t => str t
  | none => null

/-- A double, or nothing. -/
def ofFloat? (x : Option Float) : Value :=
  match x with
  | some y => float y
  | none => null

/-- Whether there is no value. -/
def isNull : Value -> Bool
  | null => true
  | _ => false

/-- The value of a number; truth values count as one and zero. -/
def asInt? : Value -> Option Int
  | int n => some n
  | bool b => some (if b then 1 else 0)
  | _ => none

/-- The text of a textual value. -/
def asText? : Value -> Option String
  | str s => some s
  | markup s => some s
  | _ => none

/-- The number of items of a range. -/
def rangeLength (start stop step : Int) : Nat :=
  if 0 < step then
    if start < stop then ((stop - start - 1) / step + 1).toNat else 0
  else if step < 0 then
    if stop < start then ((start - stop - 1) / (-step) + 1).toNat else 0
  else
    0

/-- The items of a range in order. -/
def rangeItems (start stop step : Int) : List Value :=
  (List.range (rangeLength start stop step)).map fun (i : Nat) => int (start + (i : Int) * step)

/-- What a view shows of the entries of a dictionary. -/
def viewEntries (kind : ViewKind) (entries : List (Value × Value)) : List Value :=
  match kind with
  | .keys => entries.map (·.1)
  | .values => entries.map (·.2)
  | .items => entries.map fun (k, v) => tuple [k, v]

/-- What a view shows of its dictionary. -/
def viewItems (kind : ViewKind) (owner : Value) : List Value :=
  viewEntries kind (owner.entries?.getD [])

/-- Whether a value counts as true: empty, zero and null values do not. -/
def truthy : Value -> Bool
  | null => false
  | bool b => b
  | int n => n != 0
  | float x => !(x == 0.0)
  | str s => !s.isEmpty
  | markup s => !s.isEmpty
  | list items => !items.isEmpty
  | tuple items => !items.isEmpty
  | set items => !items.isEmpty
  | dict entries => !entries.isEmpty
  | sealed entries => !entries.isEmpty
  | view _ owner => truthy owner
  | object _ content => truthy content
  | complex re im => !(re == 0.0 && im == 0.0)
  | span n => n != 0
  | bytes data => !data.isEmpty
  | range start stop step => rangeLength start stop step != 0
  | undefined .. => false
  | _ => true

/-- A dictionary from texts to values. -/
def record (fields : List (String × Value)) : Value :=
  dict (fields.map fun (name, value) => (str name, value))

/-- The value under a text key of a list of entries. -/
def field? (entries : List (Value × Value)) (name : String) : Option Value :=
  match entries with
  | [] => none
  | (str key, value) :: rest => if key = name then some value else field? rest name
  | _ :: rest => field? rest name

/-- The value under a text key, when the value is a dictionary that has it. -/
def get? (v : Value) (name : String) : Option Value :=
  v.entries?.bind fun entries => field? entries name

/-- Put a value under a text key, in the place of the entry it replaces or at the end. -/
def putField (entries : List (Value × Value)) (name : String) (value : Value) :
    List (Value × Value) :=
  match entries with
  | [] => [(str name, value)]
  | (str key, old) :: rest =>
      if key = name then (str key, value) :: rest
      else (str key, old) :: putField rest name value
  | entry :: rest => entry :: putField rest name value

theorem field?_putField_self (entries : List (Value × Value)) (name : String) (value : Value) :
    field? (putField entries name value) name = some value := by
  induction entries with
  | nil => simp [putField, field?]
  | cons e rest ih =>
      obtain ⟨k, old⟩ := e
      cases k with
      | str key =>
          by_cases same : key = name
          · simp [putField, field?, same]
          · simp only [putField, same, if_false, field?, ih]
      | _ => simpa [putField, field?] using ih

theorem field?_putField_of_ne (entries : List (Value × Value)) {name other : String} (value : Value)
    (h : name ≠ other) : field? (putField entries name value) other = field? entries other := by
  induction entries with
  | nil => simp [putField, field?, h]
  | cons e rest ih =>
      obtain ⟨k, old⟩ := e
      cases k with
      | str key =>
          by_cases same : key = name
          · subst same
            simp [putField, field?, h]
          · simp only [putField, same, if_false, field?, ih]
      | _ => simpa [putField, field?] using ih

end Value

end Workflow
