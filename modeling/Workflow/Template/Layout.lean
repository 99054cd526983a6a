import Workflow.Text.Search
import Workflow.Value.Arithmetic

/-!
# Words and lines

Counting words, titles, centring, moving lines to the right, and wrapping lines at a
width.
-/

namespace Workflow

namespace Template

/-! ## Words -/

/-- A character of a word. -/
def isWordPart (c : Char) : Bool :=
  c == '_' || Text.isLetter c || Text.isNumeric c

/-- The number of words. -/
def countWords (inWord : Bool) : List Char -> Nat
  | [] => 0
  | c :: rest =>
      if isWordPart c then (if inWord then 0 else 1) + countWords true rest
      else countWords false rest

/-- A character after which a capital stands in a title. -/
def beginsWord (c : Char) : Bool :=
  Text.isBlank c || ['-', '(', '\x7b', '[', '<'].contains c

/-- Every word with a capital at its head and small letters after it.  The fuel is the length. -/
def titled : Nat -> List Char -> List Char
  | 0, _ => []
  | _ + 1, [] => []
  | fuel + 1, c :: rest =>
      if beginsWord c then c :: titled fuel rest
      else
        let word := rest.takeWhile fun d => !beginsWord d
        Text.upper [c] ++ Text.lower word ++ titled fuel (rest.drop word.length)

/-! ## Lines -/

/-- Blanks around a text that centre it in a width. -/
def centred (width : Int) (cs : List Char) : List Char :=
  let missing := width.toNat - cs.length
  if missing = 0 then cs
  else
    let left := missing / 2 + (if missing % 2 = 1 && width.toNat % 2 = 1 then 1 else 0)
    List.replicate left ' ' ++ cs ++ List.replicate (missing - left) ' '

/-- The lines of a text after the first one moved to the right. -/
def indented (step : List Char) (first blank : Bool) (cs : List Char) : List Char :=
  let lines := Text.splitLines Text.isLineEnd false (cs ++ ['\n'])
  let body := match lines with
    | [] => []
    | line :: rest =>
        line ++ rest.flatMap fun l =>
          '\n' :: (if l.isEmpty && !blank then l else step ++ l)
  if first then step ++ body else body

/-- The text before the last blank. -/
def beforeLastBlank (cs : List Char) : List Char :=
  match Text.findLast? [' '] cs with
  | some i => cs.take i
  | none => cs

/-! ## Wrapping -/

/-- White space as lines are wrapped at it. -/
def isWrapBlank (c : Char) : Bool :=
  [' ', '\t', '\n', '\x0b', '\x0c', '\r'].contains c

/-- A letter as words are cut at hyphens: a character of a word that is no digit. -/
def isWrapLetter (c : Char) : Bool :=
  isWordPart c && !Text.isDecimal c

/-- A character after which a dash of several hyphens stands by itself. -/
def isDashEdge (c : Char) : Bool :=
  isWordPart c || ['!', '"', '\'', '&', '.', ',', '?'].contains c

/-- The number of characters of the dash a text begins with, when a word follows it. -/
def dashLength? (cs : List Char) : Option Nat :=
  let n := (cs.takeWhile (· == '-')).length
  if 2 ≤ n && ((cs.drop n).head?.map isWordPart).getD false then some n else none

/-- Whether a dash stands here, after a character. -/
def isDash (before : Option Char) (cs : List Char) : Bool :=
  (before.map isDashEdge).getD false && (dashLength? cs).isSome

/-- Whether a word is cut behind a hyphen: letters before it and behind it. `before` has the last character first. -/
def isHyphenBreak (before after : List Char) : Bool :=
  let lettersBefore := match before with
    | b :: a :: rest =>
        isWrapLetter b && (isWrapLetter a || (a == '-' && (rest.head?.map isWrapLetter).getD false))
    | _ => false
  let lettersAfter := match after with
    | a :: '-' :: b :: _ => isWrapLetter a && isWrapLetter b
    | a :: b :: _ => isWrapLetter a && isWrapLetter b
    | _ => false
  lettersBefore && lettersAfter

/--
The rest of a word up to the first place it may be cut at: white space, a dash, or the
end of a part with a hyphen.  `before` has the characters before, the last one first.
-/
def spanWord (before : List Char) : List Char -> List Char × List Char
  | [] => ([], [])
  | c :: rest =>
      if isWrapBlank c then ([], c :: rest)
      else if isDash before.head? (c :: rest) then ([], c :: rest)
      else if c == '-' && isHyphenBreak before rest then ([c], rest)
      else
        let (word, left) := spanWord (c :: before) rest
        (c :: word, left)

/--
A line cut into words, parts of words with hyphens, dashes, and the white space between
them.  The fuel is the length.
-/
def wrapChunks : Nat -> List Char -> List Char -> List (List Char)
  | 0, _, _ => []
  | _ + 1, _, [] => []
  | fuel + 1, before, c :: rest =>
      let go (chunk left : List Char) : List (List Char) :=
        chunk :: wrapChunks fuel (chunk.reverse ++ before) left
      if isWrapBlank c then
        let blanks := (c :: rest).takeWhile isWrapBlank
        go blanks ((c :: rest).drop blanks.length)
      else if isDash before.head? (c :: rest) then
        let n := (dashLength? (c :: rest)).getD 1
        go ((c :: rest).take n) ((c :: rest).drop n)
      else
        let (word, left) := spanWord (c :: before) rest
        go (c :: word) left

/-- A line cut into words and the white space between them.  The fuel is the length. -/
def plainChunks : Nat -> List Char -> List (List Char)
  | 0, _ => []
  | _ + 1, [] => []
  | fuel + 1, c :: rest =>
      let same := fun d => isWrapBlank d == isWrapBlank c
      (c :: rest.takeWhile same) :: plainChunks fuel (rest.dropWhile same)

/-- Fill one line with chunks; what does not fit is left. -/
def fillLine (width : Nat) (used : Nat) : List (List Char) -> List (List Char) × List (List Char)
  | [] => ([], [])
  | chunk :: rest =>
      if used + chunk.length ≤ width then
        let (line, left) := fillLine width (used + chunk.length) rest
        (chunk :: line, left)
      else ([], chunk :: rest)

/-- Whether a chunk is white space. -/
def isBlankChunk (chunk : List Char) : Bool :=
  chunk.all Text.isBlank

/-- How much of a chunk that is longer than a line stands on it: up to the last hyphen that fits, or all that fits. -/
def splitPlace (hyphens : Bool) (space : Nat) (chunk : List Char) : Nat :=
  let front := chunk.take space
  match Text.findLast? ['-'] front with
  | some i =>
      if hyphens && space < chunk.length && 0 < i && (front.take i).any (· != '-') then i + 1
      else space
  | none => space

/-- Chunks put on lines of a width.  The fuel bounds the number of lines. -/
def wrapLines (width : Nat) (breakLong hyphens : Bool) :
    Nat -> Bool -> List (List Char) -> List (List Char)
  | 0, _, _ => []
  | fuel + 1, first, chunks =>
      match chunks with
      | [] => []
      | chunk :: rest =>
          if !first && isBlankChunk chunk then
            wrapRest fuel first rest
          else wrapRest fuel first chunks
where
  /-- Fill a line and go on with what is left. -/
  wrapRest (fuel : Nat) (first : Bool) (chunks : List (List Char)) : List (List Char) :=
    let (line, left) := fillLine width 0 chunks
    let used := (line.map List.length).foldl (· + ·) 0
    let (line, left) := match left with
      | long :: more =>
          if width < long.length then
            if breakLong then
              let place := splitPlace hyphens (if width = 0 then 1 else width - used) long
              (line ++ [long.take place], long.drop place :: more)
            else if line.isEmpty then ([long], more)
            else (line, left)
          else (line, left)
      | [] => (line, left)
    let left := left.filter fun c => !c.isEmpty
    let line := match line.reverse with
      | last :: front => if isBlankChunk last then front.reverse else line
      | [] => line
    let more := wrapLines width breakLong hyphens fuel (first && line.isEmpty) left
    if line.isEmpty then more else line.flatten :: more

end Template

end Workflow
