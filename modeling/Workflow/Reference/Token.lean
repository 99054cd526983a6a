import Workflow.Text.Class
import Workflow.Value.Basic

/-!
# Tokens in texts

A token is a path between two pairs of braces, without a closing brace inside.  A text
is cut at its leftmost tokens; what stands between them is kept as it is.
-/

namespace Workflow

namespace Reference

/-- The inside of the token a text begins with, and what follows the token. -/
def tokenAt? : List Char -> Option (List Char × List Char)
  | '\x7b' :: '\x7b' :: rest =>
      let inside := rest.takeWhile (· != '\x7d')
      match rest.dropWhile (· != '\x7d') with
      | '\x7d' :: '\x7d' :: after => if inside.isEmpty then none else some (inside, after)
      | _ => none
  | _ => none

/-- What is left after dropping a run of characters is no longer than before. -/
theorem length_dropWhile_le (p : Char -> Bool) (cs : List Char) :
    (cs.dropWhile p).length ≤ cs.length :=
  (List.dropWhile_sublist p).length_le

/-- What follows a token is shorter than what begins with it. -/
theorem tokenAt?_shorter {cs inside after : List Char}
    (h : tokenAt? cs = some (inside, after)) : after.length < cs.length := by
  unfold tokenAt? at h
  split at h
  · next rest =>
      have bound := length_dropWhile_le (· != '\x7d') rest
      dsimp only at h
      split at h
      · next tail heq =>
          split at h
          · cases h
          · cases h
            rw [heq] at bound
            simp only [List.length_cons] at bound ⊢
            omega
      · cases h
  · cases h

/-- A stretch of a text: one character, or a token by its inside. -/
inductive Piece where
  | char (c : Char)
  | token (inside : List Char)
  deriving Repr, DecidableEq

/-- A text cut at its leftmost tokens. -/
def pieces (cs : List Char) : List Piece :=
  match cs with
  | [] => []
  | c :: rest =>
      match _ : tokenAt? (c :: rest) with
      | some (inside, after) => .token inside :: pieces after
      | none => .char c :: pieces rest
termination_by cs.length
decreasing_by
  · exact tokenAt?_shorter (by assumption)
  · simp

/-- A token as it is written. -/
def written (inside : List Char) : List Char :=
  ['\x7b', '\x7b'] ++ inside ++ ['\x7d', '\x7d']

/-- The text of a stretch. -/
def Piece.chars : Piece -> List Char
  | .char c => [c]
  | .token inside => written inside

/-- The path a token names: its inside without the white space around it. -/
def pathOf (inside : List Char) : String :=
  String.ofList (Text.trim Text.isBlank inside)

/-- The paths of the tokens of a text, in order. -/
def pathsOf (s : String) : List String :=
  (pieces s.toList).filterMap fun
    | .token inside => some (pathOf inside)
    | .char _ => none

mutual

/-- The paths of the tokens that are left in a value, in the order they appear. -/
def unresolved : Value -> List String
  | .str s => pathsOf s
  | .list items => unresolvedItems items
  | .tuple items => unresolvedItems items
  | .dict entries => unresolvedEntries entries
  | .object _ content => unresolved content
  | _ => []

/-- The paths of the tokens that are left in items. -/
def unresolvedItems : List Value -> List String
  | [] => []
  | x :: rest => unresolved x ++ unresolvedItems rest

/-- The paths of the tokens that are left in the values of entries. -/
def unresolvedEntries : List (Value × Value) -> List String
  | [] => []
  | (_, v) :: rest => unresolved v ++ unresolvedEntries rest

end

end Reference

end Workflow
