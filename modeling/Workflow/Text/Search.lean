import Workflow.Text.Class

/-!
# Searching and splitting texts
-/

namespace Workflow

namespace Text

/-- The first place at or after which `needle` begins, counted from `place`. -/
def findFrom? (needle : List Char) (place : Nat) : List Char -> Option Nat
  | [] => if needle.isEmpty then some place else none
  | c :: rest =>
      if needle.isPrefixOf (c :: rest) then some place else findFrom? needle (place + 1) rest

/-- The last place at which `needle` begins. -/
def findLast? (needle cs : List Char) : Option Nat :=
  (findFrom? needle.reverse 0 cs.reverse).map fun i => cs.length - i - needle.length

/-- Cut a text at the first occurrence of a separator. -/
def cutAt? (separator cs : List Char) : Option (List Char × List Char) :=
  (findFrom? separator 0 cs).map fun i => (cs.take i, cs.drop (i + separator.length))

/-- Pieces between occurrences of a separator, at most `limit` cuts being made. -/
def splitAll (separator : List Char) : Nat -> List Char -> List (List Char)
  | 0, cs => [cs]
  | limit + 1, cs =>
      match cutAt? separator cs with
      | none => [cs]
      | some (front, back) => front :: splitAll separator limit back

/--
Words parted by white space, at most `limit` cuts being made; what is left after the
last cut keeps the white space inside and after it.
-/
def splitWords (blank : Char -> Bool) : Nat -> List Char -> List (List Char)
  | 0, cs =>
      let rest := cs.dropWhile blank
      if rest.isEmpty then [] else [rest]
  | limit + 1, cs =>
      let rest := cs.dropWhile blank
      if rest.isEmpty then []
      else
        let word := rest.takeWhile (fun c => !blank c)
        word :: splitWords blank limit (rest.dropWhile (fun c => !blank c))

/-- The words of a text, parted by white space. -/
def words (cs : List Char) : List (List Char) :=
  splitWords isBlank cs.length cs

/-- Replace the first `limit` occurrences of a text that is not empty. -/
def replaceSome (old new : List Char) : Nat -> List Char -> List Char
  | 0, cs => cs
  | limit + 1, cs =>
      match cutAt? old cs with
      | none => cs
      | some (front, back) => front ++ new ++ replaceSome old new limit back

/-- Put a text before each of the first `limit` characters, and at the end if cuts are left. -/
def interleave (new : List Char) : Nat -> List Char -> List Char
  | 0, cs => cs
  | _ + 1, [] => new
  | limit + 1, c :: rest => new ++ c :: interleave new limit rest

/-- Replace occurrences of a text; the empty one occurs before each character and at the end. -/
def replaceAll (old new cs : List Char) (limit : Option Nat) : List Char :=
  if old.isEmpty then interleave new (limit.getD (cs.length + 1)) cs
  else replaceSome old new (limit.getD cs.length) cs

/-- Replace tabs by blanks up to the next multiple of a width; line ends start a new count. -/
def expandTabs (width column : Nat) : List Char -> List Char
  | [] => []
  | c :: rest =>
      if c == '\t' then
        let n := if width = 0 then 0 else width - column % width
        List.replicate n ' ' ++ expandTabs width (column + n) rest
      else if c == '\n' || c == '\r' then c :: expandTabs width 0 rest
      else c :: expandTabs width (column + 1) rest

/-- The number of occurrences that do not overlap. -/
def countOccurrences (needle cs : List Char) : Nat :=
  if needle.isEmpty then cs.length + 1
  else (splitAll needle cs.length cs).length - 1

/-- A character that ends a line. -/
def isLineEnd (c : Char) : Bool :=
  ['\n', '\r', '\x0b', '\x0c', '\x1c', '\x1d', '\x1e', '\u0085', '\u2028', '\u2029'].contains c

/-- A line feed or a carriage return. -/
def isPlainLineEnd (c : Char) : Bool :=
  c == '\n' || c == '\r'

/-- The lines of a text, with the characters that end them when `keep` holds. -/
def splitLines (ends : Char -> Bool) (keep : Bool) (cs : List Char) : List (List Char) :=
  go [] cs
where
  /-- `line` holds the characters of the current line, last first. -/
  go (line : List Char) : List Char -> List (List Char)
    | [] => if line.isEmpty then [] else [line.reverse]
    | '\r' :: '\n' :: rest =>
        (line.reverse ++ (if keep then ['\r', '\n'] else [])) :: go [] rest
    | c :: rest =>
        if ends c then (line.reverse ++ (if keep then [c] else [])) :: go [] rest
        else go (c :: line) rest

end Text

end Workflow
