import Workflow.Fresh
import Workflow.Reference.Token
import Workflow.Reference.Lookup

/-!
# Resolving tokens

Tokens are replaced by what their paths name in a scope.  A text that is one token
becomes the value itself; in other texts the value's text takes the token's place.  A
token whose path leads nowhere stays, and text that was put in is not read again.
-/

namespace Workflow

namespace Reference

/-- A computation that may draw fresh values, and may fail. -/
abbrev Resolving := EStateM Fault Fresh

/-- An outcome that draws no fresh values. -/
def liftOutcome (r : Outcome α) : Resolving α :=
  match r with
  | .ok a => pure a
  | .error e => throw e

/-- The value at a path; `now` and `uuid` are fresh each time they are read. -/
def valueAt? (scope : Value) (path : String) : Resolving (Option Value) :=
  if path == "now" then do
    let fresh <- get
    pure (some (.str fresh.now.stampText))
  else if path == "uuid" then do
    let (identifier, fresh) := (<- get).issue
    set fresh
    pure (some (.str identifier))
  else
    liftOutcome (lookup? scope path)

/-- The text that takes the place of a stretch of text. -/
def pieceText (scope : Value) : Piece -> Resolving (List Char)
  | .char c => pure [c]
  | .token inside => do
      match <- valueAt? scope (pathOf inside) with
      | none => pure (written inside)
      | some v => do pure (<- liftOutcome (inlineText v)).toList

/-- The text that takes the place of stretches of text. -/
def piecesText (scope : Value) : List Piece -> Resolving (List Char)
  | [] => pure []
  | p :: rest => do
      let front <- pieceText scope p
      let back <- piecesText scope rest
      pure (front ++ back)

/-- A text with its tokens replaced. -/
def resolveText (scope : Value) (s : String) : Resolving Value :=
  match pieces s.toList with
  | [.token inside] => do
      match <- valueAt? scope (pathOf inside) with
      | none => pure (.str s)
      | some v => pure v
  | ps => do pure (.str (String.ofList (<- piecesText scope ps)))

mutual

/-- A value with the tokens of all its texts replaced; tuples become lists. -/
def resolve (scope : Value) : Value -> Resolving Value
  | .str s => resolveText scope s
  | .list items => do pure (.list (<- resolveItems scope items))
  | .tuple items => do pure (.list (<- resolveItems scope items))
  | .dict entries => do pure (.dict (<- resolveEntries scope entries))
  | .object mark (.float x) => pure (.object mark (.float x))
  | .object mark (.set items) => pure (.object mark (.set items))
  | .object _ content => resolve scope content
  | v => pure v

/-- Items with their tokens replaced. -/
def resolveItems (scope : Value) : List Value -> Resolving (List Value)
  | [] => pure []
  | x :: rest => do
      let y <- resolve scope x
      pure (y :: (<- resolveItems scope rest))

/-- Entries with the tokens of their values replaced; keys are left alone. -/
def resolveEntries (scope : Value) : List (Value × Value) -> Resolving (List (Value × Value))
  | [] => pure []
  | (k, v) :: rest => do
      let w <- resolve scope v
      pure ((k, w) :: (<- resolveEntries scope rest))

end

end Reference

end Workflow
