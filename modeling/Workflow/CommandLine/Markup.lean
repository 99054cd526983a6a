import Workflow.CommandLine.Style
import Workflow.Fault
import Workflow.Text.Emoji

/-!
# Markup in shown texts

Shown texts may hold tags in square brackets that style what they enclose, and names of
emoji.  The plain text leaves the tags out; a closing tag must have something to close.
-/

namespace Workflow

namespace Markup

/-- A stretch of a text: plain characters, or what stands inside the brackets of a tag. -/
inductive Piece where
  | plain (cs : List Char)
  /-- A tag at a place of the text. -/
  | tag (place : Nat) (inside : List Char)
  deriving Repr, DecidableEq

/-- Characters that a tag may begin with. -/
def startsTag (c : Char) : Bool :=
  c.isLower || c == '#' || c == '/' || c == '@'

/-- What stands before the first closing bracket, and what follows it; no bracket may open. -/
def insideAt? : List Char -> Option (List Char × List Char)
  | [] => none
  | ']' :: rest => some ([], rest)
  | '[' :: _ => none
  | c :: rest => (insideAt? rest).map fun (inside, after) => (c :: inside, after)

/-- What follows a tag is shorter. -/
theorem insideAt?_shorter {cs inside after : List Char} (h : insideAt? cs = some (inside, after)) :
    after.length < cs.length := by
  fun_induction insideAt? cs generalizing inside with
  | case1 => cases h
  | case2 rest => cases h; simp
  | case3 => cases h
  | case4 c rest _ _ ih =>
      obtain ⟨⟨inside', after'⟩, heq, hpair⟩ := Option.map_eq_some_iff.1 h
      cases hpair
      have := ih heq
      simp only [List.length_cons]
      omega

/-- The backslashes and the inside of a tag that a text begins with, and what follows it. -/
def tagAt? (cs : List Char) : Option (Nat × List Char × List Char) :=
  match cs.dropWhile (· == '\\') with
  | '[' :: c :: rest =>
      if startsTag c then
        (insideAt? rest).map fun (inside, after) =>
          ((cs.takeWhile (· == '\\')).length, c :: inside, after)
      else none
  | _ => none

/-- What follows a tag at the front is shorter than the text. -/
theorem tagAt?_shorter {cs inside after : List Char} {n : Nat}
    (h : tagAt? cs = some (n, inside, after)) : after.length < cs.length := by
  have bound : (cs.dropWhile (· == '\\')).length ≤ cs.length :=
    (List.dropWhile_suffix (· == '\\')).length_le
  unfold tagAt? at h
  split at h
  · next c rest heq =>
      split at h
      · obtain ⟨⟨inside', after'⟩, hin, hpair⟩ := Option.map_eq_some_iff.1 h
        cases hpair
        have := insideAt?_shorter hin
        rw [heq] at bound
        simp only [List.length_cons] at bound
        omega
      · cases h
  · cases h

/-- The characters before the first tag, its backslashes and inside, and what follows it. -/
def firstTag? : List Char -> Option (List Char × Nat × List Char × List Char)
  | [] => none
  | c :: rest =>
      match tagAt? (c :: rest) with
      | some (slashes, inside, after) => some ([], slashes, inside, after)
      | none => (firstTag? rest).map fun (before, tag) => (c :: before, tag)

/-- What follows the first tag is shorter than the text. -/
theorem firstTag?_shorter {cs before inside after : List Char} {n : Nat}
    (h : firstTag? cs = some (before, n, inside, after)) : after.length < cs.length := by
  fun_induction firstTag? cs generalizing before with
  | case1 => cases h
  | case2 c rest slashes inside' after' heq =>
      cases h
      exact tagAt?_shorter heq
  | case3 c rest _ ih =>
      obtain ⟨⟨before', tag⟩, heq, hpair⟩ := Option.map_eq_some_iff.1 h
      cases hpair
      have := ih heq
      simp only [List.length_cons]
      omega

/-- Plain characters, unless there are none. -/
def plainPiece (cs : List Char) : List Piece :=
  if cs.isEmpty then [] else [.plain cs]

/-- A tag after backslashes: two of them stand for one, and an odd one makes the tag plain. -/
def tagPieces (place slashes : Nat) (inside : List Char) : List Piece :=
  plainPiece (List.replicate (slashes / 2) '\\')
    ++ [if slashes % 2 == 1 then .plain ('[' :: inside ++ [']']) else .tag (place + slashes) inside]

/-- A text that begins at a place, cut at its tags. -/
def pieces (place : Nat) (cs : List Char) : List Piece :=
  match _ : firstTag? cs with
  | none => plainPiece cs
  | some (before, slashes, inside, after) =>
      plainPiece before ++ tagPieces (place + before.length) slashes inside
        ++ pieces (place + before.length + slashes + inside.length + 2) after
termination_by cs.length
decreasing_by exact firstTag?_shorter (by assumption)

/-- A backslash before a bracket falls away. -/
def dropEscapes : List Char -> List Char
  | '\\' :: '[' :: rest => '[' :: dropEscapes rest
  | c :: rest => c :: dropEscapes rest
  | [] => []

/-- The style that the words of a tag ask for; what follows an equals sign is no part of them. -/
def styleOf (cs : List Char) : StyleName :=
  .ofWords (cs.takeWhile (· != '='))

/-- The fault of a closing tag at a place. -/
def closingFault (place : Nat) (inside : List Char) (reason : String) : Fault :=
  let shown := String.ofList inside
  .other "MarkupError" s!"closing tag '[{shown}]' at position {place} {reason}"

/-- The plain text of stretches while styles are open, the last one first. -/
def plainFrom (opened : List StyleName) : List Piece -> Outcome (List Char)
  | [] => .ok []
  | .plain cs :: rest => do
      .ok (Text.replaceEmoji (dropEscapes cs) ++ (<- plainFrom opened rest))
  | .tag place inside :: rest =>
      match inside with
      | '/' :: name =>
          if (Text.trim Text.isBlank (name.takeWhile (· != '='))).isEmpty then
            match opened with
            | [] => .error (closingFault place ['/'] "has nothing to close")
            | _ :: others => plainFrom others rest
          else
            let style := styleOf name
            if opened.contains style then plainFrom (opened.erase style) rest
            else .error (closingFault place inside "doesn't match any open tag")
      | name => plainFrom (styleOf name :: opened) rest

/-- A text without its tags. -/
def plain (s : String) : Outcome String := do
  .ok (String.ofList (<- plainFrom [] (pieces 0 s.toList)))

end Markup

end Workflow
