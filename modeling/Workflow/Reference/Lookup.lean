import Workflow.Json.Writing

/-!
# Paths through data

A path names a place in nested data: dictionaries are read by key, sequences by
position, other values by attribute.
-/

namespace Workflow

namespace Reference

/-- The position a segment names in a sequence: any digits, of whatever script. -/
def position? (key : String) : Outcome (Option Nat) :=
  if key.isEmpty || !key.toList.all Text.isDigitSign then .ok none
  else do
    match <- Value.intOfText 10 key (.str key) with
    | .int n => .ok (some n.toNat)
    | _ => .ok none

/-- What a value has under one segment of a path; `none` when there is nothing. -/
def child? (v : Value) (key : String) : Outcome (Option Value) :=
  match v.bare with
  | .null => .ok none
  | .dict entries => .ok (Value.field? entries key)
  | .sealed entries => .ok (Value.field? entries key)
  | .list items => do .ok ((<- position? key).bind fun n => items[n]?)
  | .tuple items => do .ok ((<- position? key).bind fun n => items[n]?)
  | _ => .ok (if key.startsWith "_" then none else Value.attribute? v key)

/-- What a value has at the end of a list of segments. -/
def descend? (v : Value) : List String -> Outcome (Option Value)
  | [] => .ok (some v)
  | key :: rest => do
      match <- child? v key with
      | none => .ok none
      | some w => descend? w rest

/-- A path cut at its dots. -/
def segments (path : String) : List String :=
  (Text.splitAll ['.'] path.length path.toList).map String.ofList

/-- What a scope has at a path. -/
def lookup? (scope : Value) (path : String) : Outcome (Option Value) :=
  descend? scope (segments path)

/--
The text a value is written as inside other text: texts as they are, nothing, truth
values and collections as JSON, all else by its plain text.
-/
def inlineText (v : Value) : Outcome String :=
  match v.bare with
  | .str s => .ok s
  | .markup s => .ok s
  | .null => Json.write Json.lineStyle v
  | .bool _ => Json.write Json.lineStyle v
  | .dict _ => Json.write Json.lineStyle v
  | .list _ => Json.write Json.lineStyle v
  | .tuple _ => Json.write Json.lineStyle v
  | _ => v.textOf

end Reference

end Workflow
