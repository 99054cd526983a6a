import Workflow.Reference.Resolution

/-!
# Binding tokens to names

Before an expression is evaluated its tokens are replaced by names that are bound to
the values.  A value is thereby never read as part of the expression.
-/

namespace Workflow

namespace Reference

/-- A stretch of an expression: a character, a quoted literal, or a token. -/
inductive Part where
  | char (c : Char)
  | quoted (quote : Char) (body : List Char)
  | token (inside : List Char)
  deriving Repr, DecidableEq

/-- The body of the quoted literal a text begins with, its quote, and what follows. -/
def quotedAt? : List Char -> Option (Char × List Char × List Char)
  | [] => none
  | q :: rest =>
      if q == '\'' || q == '"' then
        match rest.dropWhile (· != q) with
        | [] => none
        | _ :: after => some (q, rest.takeWhile (· != q), after)
      else none

/-- What follows a quoted literal is shorter than what begins with it. -/
theorem quotedAt?_shorter {cs : List Char} {q : Char} {body after : List Char}
    (h : quotedAt? cs = some (q, body, after)) : after.length < cs.length := by
  unfold quotedAt? at h
  split at h
  · cases h
  · next c rest =>
      have bound := length_dropWhile_le (· != c) rest
      split at h
      · split at h
        · cases h
        · next heq =>
            cases h
            rw [heq] at bound
            simp only [List.length_cons] at bound ⊢
            omega
      · cases h

/-- An expression cut at its leftmost quoted literals and tokens. -/
def parts (cs : List Char) : List Part :=
  match cs with
  | [] => []
  | c :: rest =>
      match _ : quotedAt? (c :: rest) with
      | some (q, body, after) => .quoted q body :: parts after
      | none =>
          match _ : tokenAt? (c :: rest) with
          | some (inside, after) => .token inside :: parts after
          | none => .char c :: parts rest
termination_by cs.length
decreasing_by
  · exact quotedAt?_shorter (by assumption)
  · exact tokenAt?_shorter (by assumption)
  · simp

/-- An expression whose tokens were replaced by names. -/
structure Bound where
  /-- The rewritten expression. -/
  text : List Char
  /-- The names that were introduced, with their values. -/
  values : List (String × Value)
  /-- The paths that lead nowhere. -/
  missing : List String

namespace Bound

/-- Nothing bound yet. -/
def empty : Bound := ⟨[], [], []⟩

/-- Add text to the end. -/
def write (b : Bound) (cs : List Char) : Bound :=
  { b with text := b.text ++ cs }

/-- Note that a path leads nowhere. -/
def lack (b : Bound) (path : String) : Bound :=
  { b with missing := b.missing ++ [path] }

end Bound

/-- Add underscores to a name until it is not among the taken ones, at most so many. -/
def freeName (taken : List String) : Nat -> String -> String
  | 0, name => name
  | n + 1, name => if taken.contains name then freeName taken n (name ++ "_") else name

/-- Bind a value to a new name and write the name. -/
def bindValue (reserved : List String) (b : Bound) (v : Value) : Bound :=
  let taken := reserved ++ b.values.map (·.1)
  let name := freeName taken (taken.length + 1) s!"token_{b.values.length}"
  { b with text := b.text ++ name.toList, values := b.values ++ [(name, v)] }

/-- The text of a literal with its tokens replaced; paths that lead nowhere are noted. -/
def bindLiteral (scope : Value) (b : Bound) : List Piece -> Resolving (List Char × Bound)
  | [] => pure ([], b)
  | .char c :: rest => do
      let (cs, b) <- bindLiteral scope b rest
      pure (c :: cs, b)
  | .token inside :: rest => do
      match <- valueAt? scope (pathOf inside) with
      | none => do
          let (cs, b) <- bindLiteral scope (b.lack (pathOf inside)) rest
          pure (written inside ++ cs, b)
      | some v => do
          let front <- liftOutcome (inlineText v)
          let (cs, b) <- bindLiteral scope b rest
          pure (front.toList ++ cs, b)

/-- Whether a stretch is a token. -/
def Piece.isToken : Piece -> Bool
  | .token _ => true
  | .char _ => false

/-- Bind the tokens of one stretch of an expression. -/
def bindPart (scope : Value) (reserved : List String) (b : Bound) : Part -> Resolving Bound
  | .char c => pure (b.write [c])
  | .token inside => do
      match <- valueAt? scope (pathOf inside) with
      | none => pure ((b.lack (pathOf inside)).write (written inside))
      | some v => pure (bindValue reserved b v)
  | .quoted q body =>
      if (pieces body).any Piece.isToken then do
        let (cs, b) <- bindLiteral scope b (pieces body)
        pure (bindValue reserved b (.str (String.ofList cs)))
      else
        pure (b.write (q :: body ++ [q]))

/-- Bind the tokens of stretches of an expression. -/
def bindParts (scope : Value) (reserved : List String) (b : Bound) : List Part -> Resolving Bound
  | [] => pure b
  | p :: rest => do bindParts scope reserved (<- bindPart scope reserved b p) rest

/--
Replace the tokens of an expression by names that are not reserved.  A token outside
quotes is bound to its value; a quoted literal with tokens is bound to its text.
-/
def bind (scope : Value) (reserved : List String) (expression : String) : Resolving Bound :=
  bindParts scope reserved .empty (parts expression.toList)

end Reference

end Workflow
