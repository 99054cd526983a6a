import Workflow.Template.Filter
import Workflow.Value.Traversal

/-!
# Memory of a rendering

Names live in scopes, and macros, loops, streams and namespaces in cells.  Both are
referred to by their places, so that what one part of a template changes another part
sees.
-/

namespace Workflow

namespace Template

/-- Where a part of a template is rendered. -/
structure Surroundings where
  /-- The scopes names are looked up in, the innermost first. -/
  scopes : List Nat
  /-- Whether printed values are escaped for markup. -/
  escaping : Bool
  /-- The blocks of the template. -/
  blocks : List Block
  /-- How many macros and recursive loops are being run. -/
  depth : Nat
  /-- The value that a filter without a subject is applied to. -/
  subject : Value

/-- A macro with the surroundings it was defined in. -/
structure Closure where
  name : Option String
  parameters : List (String × Option Term)
  body : List Statement
  defined : Surroundings

/-- What a loop repeats. -/
structure LoopBody where
  place : Place
  test : Option Term
  body : List Statement
  otherwise : List Statement
  /-- Whether the loop can be called from its body. -/
  recursive : Bool
  surroundings : Surroundings

/-- What is left of a sequence to go through. -/
inductive Course where
  | values (t : Traversal)
  /-- The items of a stream, by its place. -/
  | stream (place : Nat)
  deriving Inhabited

/-- How a stream makes its items of those of another value. -/
inductive Maker where
  /-- As they are. -/
  | items
  /-- By a filter that gives items one after another. -/
  | filter (name : String) (a : Value.Arguments)
  /-- Those a loop goes through. -/
  | chosen (b : LoopBody)

/-- Where a stream stands. -/
inductive Stage where
  | waiting (source : Value)
  /-- Begun, with the values it keeps: keys met so far, or items that make up a run. -/
  | running (left : Course) (kept : List Value)
  | ended

/-- A sequence whose items are made when they are asked for. -/
structure Stream where
  maker : Maker
  stage : Stage

/-- Where a loop stands. -/
structure LoopState where
  /-- What the loop goes through. -/
  source : Value
  left : Course
  /-- How many items were taken so far. -/
  started : Nat
  /-- The number of items, once it was asked for. -/
  length : Option Nat
  /-- The item after the current one, if it was looked at already. -/
  after : Option Value
  current : Value
  before : Value
  depth : Nat
  /-- The values last asked about with `changed`. -/
  changed : Option (List Value)
  /-- What is repeated, when the loop is recursive. -/
  again : Option LoopBody

/-- A changeable value. -/
inductive Cell where
  | fields (entries : List (String × Value))
  | closure (c : Closure)
  | loop (l : LoopState)
  | cycler (items : List Value) (place : Nat)
  | joiner (separator : Value) (used : Bool)
  | stream (s : Stream)

/-- Scopes and cells, and what the changeable values among the data hold. -/
structure Memory where
  scopes : Array (List (String × Value))
  cells : Array Cell
  objects : Objects

/-- A rendering changes the memory and may fail. -/
abbrev Render := EStateM Fault Memory

/-- The outcome of an operation on values. -/
def lift (r : Outcome α) : Render α :=
  match r with
  | .ok a => pure a
  | .error f => throw f

/-- What reads and changes values. -/
def perform (action : Action α) : Render α := fun m =>
  match action m.objects with
  | .ok x objects => .ok x { m with objects }
  | .error f objects => .error f { m with objects }

/-- A value with all that it holds by now. -/
def current (v : Value) : Render Value :=
  perform (Action.current v)

/-- A value with what it holds by now, which is not looked into. -/
def look (v : Value) : Render Value :=
  perform (Action.look v)

/-- A new value, which can be changed from now on. -/
def make (r : Outcome Value) : Render Value :=
  perform (Action.make r)

/-- Arguments with all that they hold by now. -/
def currentArguments (a : Value.Arguments) : Render Value.Arguments := do
  let positional <- a.positional.mapM current
  let named <- a.named.mapM fun (n, v) => do pure (n, (<- current v))
  pure ⟨positional, named⟩

/-- Put a value under a name. -/
def setName (bindings : List (String × Value)) (id : String) (v : Value) : List (String × Value) :=
  match bindings with
  | [] => [(id, v)]
  | (name, old) :: rest =>
      if name == id then (name, v) :: rest else (name, old) :: setName rest id v

/-- Make a scope and give its place. -/
def newScope (bindings : List (String × Value)) : Render Nat := do
  let m <- get
  set { m with scopes := m.scopes.push bindings }
  pure m.scopes.size

/-- Surroundings with a new innermost scope. -/
def Surroundings.inner (s : Surroundings) (bindings : List (String × Value)) :
    Render Surroundings := do
  let place <- newScope bindings
  pure { s with scopes := place :: s.scopes }

/-- Assign to a name in the scope at a place. -/
def assignIn (place : Nat) (id : String) (v : Value) : Render Unit :=
  modify fun m => { m with scopes := m.scopes.modify place fun bs => setName bs id v }

/-- Assign to a name in the innermost scope. -/
def Surroundings.assign (s : Surroundings) (id : String) (v : Value) : Render Unit :=
  match s.scopes with
  | place :: _ => assignIn place id v
  | [] => pure ()

/-- Make a cell and give its place. -/
def newCell (c : Cell) : Render Nat := do
  let m <- get
  set { m with cells := m.cells.push c }
  pure m.cells.size

/-- Change the cell at a place. -/
def putCell (place : Nat) (c : Cell) : Render Unit :=
  modify fun m => { m with cells := m.cells.setIfInBounds place c }

/-- The scope, among some, in which a name is bound, and its value. -/
def findName? (m : Memory) (id : String) : List Nat -> Option (Nat × Value)
  | [] => none
  | place :: rest =>
      match (m.scopes[place]?).bind fun bs => bs.lookup id with
      | some v => some (place, v)
      | none => findName? m id rest

/-- Functions that every template knows. -/
def globalNames : List String :=
  ["range", "lipsum", "cycler", "joiner", "namespace"]

/-- The template itself, through which its blocks can be written again. -/
def selfValue : Value := .foreign "TemplateReference"

/-- The value of a name; one that is bound nowhere is undefined. -/
def Surroundings.lookup (s : Surroundings) (id : String) : Render Value := do
  match findName? (<- get) id s.scopes with
  | some (_, v) => pure v
  | none =>
      if id == "dict" then pure (.converter "dict")
      else if id == "self" then pure selfValue
      else if globalNames.contains id then pure (.function id)
      else
        let quoted := Text.quoted id
        pure (.undefined s!"{quoted} is undefined" .strict)

/-- Make a stream. -/
def newStream (kind : String) (maker : Maker) (stage : Stage) : Render Value := do
  pure (.stream kind (<- newCell (.stream ⟨maker, stage⟩)))

/-! ## Parts of changeable values -/

/-- The part of a macro under a name. -/
def closurePart (c : Closure) (v : Value) (name : String) : Value :=
  match name with
  | "name" => (c.name.map Value.str).getD .null
  | "arguments" => .tuple (c.parameters.map fun (n, _) => .str n)
  | "catch_kwargs" => .bool (mentions "kwargs" 1000 c.body)
  | "catch_varargs" => .bool (mentions "varargs" 1000 c.body)
  | "caller" => .bool (mentions "caller" 1000 c.body)
  | name => if hasHidden v name then restrictedPart v name else noPart v name

/-- The part of a value under a name, changeable values included; loops have parts of their own. -/
def plainPart (v : Value) (name : String) : Render Value := do
  match v with
  | .slot _ place =>
      match (<- get).cells[place]? with
      | some (.fields entries) =>
          match entries.lookup name with
          | some w => pure w
          | none => pure (if hasHidden v name then restrictedPart v name else noPart v name)
      | some (.closure c) => pure (closurePart c v name)
      | some (.cycler items i) =>
          if name == "current" then pure ((items[i]?).getD .null)
          else if name == "next" || name == "reset" then pure (.method v name)
          else pure (noPart v name)
      | _ => pure (if hasHidden v name then restrictedPart v name else noPart v name)
  | v => do
      let v <- look v
      make (partByName v name)

/-- The text that is printed for a value other than a loop. -/
def plainPrinted (escaping : Bool) (v : Value) : Render String := do
  match v with
  | .slot _ place =>
      match (<- get).cells[place]? with
      | some (.closure c) =>
          match c.name with
          | some n =>
              let quoted := Text.quoted n
              pure s!"<Macro {quoted}>"
          | none => pure "<Macro anonymous>"
      | some (.fields entries) => do
          let fields <- current (.record entries)
          pure s!"<Namespace {fields.literal}>"
      | _ => pure v.text
  | .foreign "TemplateReference" => pure "<TemplateReference None>"
  | v => do
      let v <- current v
      lift (if escaping then escaped v else plainText v)

/-- A printed text as a value: markup where values are escaped. -/
def textValue (escaping : Bool) (s : String) : Value :=
  if escaping then .markup s else .str s

end Template

end Workflow
