import Workflow.Value.Function

/-!
# Parts of values in templates

A part asked for by name is an attribute or else an item; a part asked for by key is an
item or else an attribute.  Attributes whose names begin with an underscore are
restricted.  What does not exist is an undefined value, which says so when it is used.
-/

namespace Workflow

namespace Template

/-- What a value is called in complaints. -/
def describe (v : Value) : String :=
  match v.bare with
  | .null => "None"
  | .markup _ => "markupsafe.Markup object"
  | .slot .namespace _ => "jinja2.utils.Namespace object"
  | .slot .cycler _ => "jinja2.utils.Cycler object"
  | .slot .joiner _ => "jinja2.utils.Joiner object"
  | .slot .loop _ => "jinja2.runtime.LoopContext object"
  | .slot _ _ => "jinja2.runtime.Macro object"
  | .foreign "TemplateReference" => "jinja2.runtime.TemplateReference object"
  | v => v.kind ++ " object"

/-- A part that does not exist, by name. -/
def noPart (v : Value) (name : String) : Value :=
  let owner := Text.quoted (describe v)
  let quoted := Text.quoted name
  .undefined s!"{owner} has no attribute {quoted}" .strict

/-- An item that does not exist, by key. -/
def noItem (v key : Value) : Value :=
  match key.asText? with
  | some name => noPart v name
  | none => .undefined s!"{describe v} has no element {key.literal}" .strict

/-- A part that may not be read. -/
def restrictedPart (v : Value) (name : String) : Value :=
  let quoted := Text.quoted name
  let kind := v.plainKind
  .undefined s!"access to attribute {quoted} of '{kind}' object is unsafe." .restricted

/-- Names of hidden attributes that every value has. -/
def commonHidden : List String :=
  ["__class__", "__delattr__", "__dir__", "__doc__", "__eq__", "__format__", "__ge__",
    "__getattribute__", "__getstate__", "__gt__", "__hash__", "__init__", "__init_subclass__",
    "__le__", "__lt__", "__ne__", "__new__", "__reduce__", "__reduce_ex__", "__repr__",
    "__setattr__", "__sizeof__", "__str__", "__subclasshook__"]

/-- Names of hidden attributes of numbers. -/
def numberHidden : List String :=
  ["__abs__", "__add__", "__bool__", "__ceil__", "__divmod__", "__float__", "__floor__",
    "__floordiv__", "__getnewargs__", "__int__", "__mod__", "__mul__", "__neg__", "__pos__",
    "__pow__", "__radd__", "__rdivmod__", "__rfloordiv__", "__rmod__", "__rmul__", "__round__",
    "__rpow__", "__rsub__", "__rtruediv__", "__sub__", "__truediv__", "__trunc__"]

/-- Names of hidden attributes of collections. -/
def collectionHidden : List String :=
  ["__contains__", "__iter__", "__len__"]

/-- Names of hidden attributes that a value has beside the common ones. -/
def hiddenNames (v : Value) : List String :=
  match v.bare with
  | .str _ => collectionHidden ++ ["__add__", "__getitem__", "__getnewargs__", "__mod__",
      "__mul__", "__rmod__", "__rmul__"]
  | .markup _ => collectionHidden ++ ["__add__", "__getitem__", "__getnewargs__", "__html__",
      "__mod__", "__mul__", "__rmod__", "__rmul__", "__dict__", "__module__"]
  | .bytes _ => collectionHidden ++ ["__add__", "__bytes__", "__getitem__", "__getnewargs__",
      "__mod__", "__mul__", "__rmod__", "__rmul__"]
  | .list _ => collectionHidden ++ ["__add__", "__class_getitem__", "__delitem__", "__getitem__",
      "__iadd__", "__imul__", "__mul__", "__reversed__", "__rmul__", "__setitem__"]
  | .tuple _ => collectionHidden ++ ["__add__", "__class_getitem__", "__getitem__",
      "__getnewargs__", "__mul__", "__rmul__"]
  | .dict _ => collectionHidden ++ ["__class_getitem__", "__delitem__", "__getitem__", "__ior__",
      "__or__", "__reversed__", "__ror__", "__setitem__"]
  | .sealed _ => collectionHidden ++ ["__class_getitem__", "__getitem__", "__ior__", "__or__",
      "__reversed__", "__ror__"]
  | .set _ => collectionHidden ++ ["__and__", "__or__", "__sub__", "__xor__"]
  | .range .. => collectionHidden ++ ["__bool__", "__getitem__", "__reversed__"]
  | .view .. => collectionHidden ++ ["__reversed__"]
  | .int _ => numberHidden ++ ["__and__", "__index__", "__invert__", "__lshift__", "__or__",
      "__rand__", "__rlshift__", "__ror__", "__rrshift__", "__rshift__", "__rxor__", "__xor__"]
  | .bool _ => numberHidden ++ ["__and__", "__index__", "__invert__", "__lshift__", "__or__",
      "__rand__", "__rlshift__", "__ror__", "__rrshift__", "__rshift__", "__rxor__", "__xor__"]
  | .float _ => numberHidden ++ ["__getformat__"]
  | .null => ["__bool__"]
  | .method .. => ["__call__", "__name__", "__qualname__", "__self__", "__text_signature__"]
  | .function _ => ["__call__", "__name__", "__qualname__", "__module__", "__dict__", "__code__",
      "__globals__", "__closure__", "__defaults__", "__annotations__", "__builtins__"]
  | .converter _ => ["__bases__", "__base__", "__mro__", "__dict__", "__name__", "__qualname__",
      "__module__", "__subclasses__", "__call__", "__basicsize__"]
  | .stream "generator" _ => ["__iter__", "__next__", "gi_frame", "gi_code"]
  | .stream .. => ["__iter__", "__next__"]
  | .slot .. => ["__call__", "__dict__", "__module__", "__weakref__"]
  | _ => []

/-- Whether a value has a hidden attribute. -/
def hasHidden (v : Value) (name : String) : Bool :=
  commonHidden.contains name || (hiddenNames v).contains name

/-- Methods that only markup has. -/
def markupMethods : List String :=
  ["striptags", "unescape", "escape"]

/-- The attribute of a value; a pair of a key and its group also has them by name. -/
def attributeOf? (v : Value) (name : String) : Option Value :=
  let plain : Option Value :=
    if hasHidden v name then some (restrictedPart v name) else Value.attribute? v name
  match v, name with
  | .tuple [key, .object _ (.list _)], "grouper" => some key
  | .tuple [_, .object mark (.list items)], "list" => some (.object mark (.list items))
  | .converter _, "mro" => some (restrictedPart v name)
  | .markup _, name => if markupMethods.contains name then some (.method v name) else plain
  | _, _ => plain

/-- The item of a value under a key; `none` when there is none.  A text is looked up as it is first. -/
def itemOf? (v key : Value) : Outcome (Option Value) :=
  match key.asText?.bind (Value.get? v) with
  | some w => .ok (some w)
  | none =>
      match Value.subscript v key with
      | .ok w => .ok (some w)
      | .error f =>
          if f.name == "TypeError" || f.name == "KeyError" || f.name == "IndexError" then .ok none
          else .error f

/-- The part of a value under a name. -/
def partByName (v : Value) (name : String) : Outcome Value := do
  match v with
  | .undefined .. =>
      if hasHidden v name then .ok (restrictedPart v name)
      else do
        Value.presentUse v
        .ok v
  | v =>
      match attributeOf? v name with
      | some w => .ok w
      | none => do
          match <- itemOf? v (.str name) with
          | some w => .ok w
          | none => .ok (noPart v name)

/-- The part of a value under a key. -/
def partByKey (v key : Value) : Outcome Value := do
  match <- itemOf? v key with
  | some w => .ok w
  | none =>
      match key.asText? with
      | none => .ok (noItem v key)
      | some name =>
          match attributeOf? v name with
          | some w => .ok w
          | none => .ok (noPart v name)

/-- The attribute of a value, without its items. -/
def attributeByName (v : Value) (name : String) : Outcome Value := do
  match v with
  | .undefined .. =>
      if hasHidden v name then .ok (restrictedPart v name)
      else do
        Value.presentUse v
        .ok v
  | v => .ok ((attributeOf? v name).getD (noPart v name))

/-- A dotted name as keys: digits are positions. -/
def keysOf : Value -> List Value
  | .null => []
  | .str s =>
      (Text.splitAll ['.'] s.length s.toList).map fun part =>
        if !part.isEmpty && part.all Text.isDigitSign then
          .int ((Number.digitsValue? 10 part).getD 0 : Nat)
        else .str (String.ofList part)
  | v => [v]

/-- What a value has at the end of keys; a default stands in for what does not exist. -/
def partAt (default : Option Value) (v : Value) : List Value -> Outcome Value
  | [] => .ok v
  | key :: rest => do
      let w <- partByKey v key
      let w := match w, default with
        | .undefined .., some d => d
        | w, _ => w
      partAt default w rest

end Template

end Workflow
