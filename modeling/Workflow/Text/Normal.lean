import Workflow.Text.Entity
import Workflow.Text.Table.Normal

/-!
# One form for names that are written in several ways

Wide, narrow, styled and joined letters stand for plain ones, and a letter with the marks
after it for the character they make together.  Names are the same when their normal forms
are.
-/

namespace Workflow

namespace Text

/-- The code point that hexadecimal digits write. -/
def hexCode (digits : String) : Nat :=
  (Number.digitsValue? 16 digits.toList).getD 0

/-- Characters and what they stand for, other than those in runs. -/
def variants : List (Nat × List Char) :=
  (tableEntries Table.variants).map fun (code, image) => (hexCode code, image)

/-- A letter, a mark, and the character they make together. -/
def compositions : List (Char × Char × Char) :=
  (tableEntries Table.compositions).filterMap fun (pair, image) =>
    match pair.splitOn ",", image with
    | [letter, mark], [c] => some (Char.ofNat (hexCode letter), Char.ofNat (hexCode mark), c)
    | _, _ => none

/-- The plain characters that a character stands for. -/
def plainForm (c : Char) : List Char :=
  let n := c.toNat
  match Table.variantRuns.find? fun (first, last, _) => decide (first ≤ n && n ≤ last) with
  | some (first, _, image) => [Char.ofNat (image + (n - first))]
  | none => (variants.lookup n).getD [c]

/-- The order of a mark among those on a letter; zero for letters. -/
def markOrder (c : Char) : Nat :=
  let n := c.toNat
  match Table.markRuns.find? fun (first, last, _) => decide (first ≤ n && n ≤ last) with
  | some (_, _, order) => order
  | none => 0

/-! ## Syllables of three parts -/

/-- The first of the syllables that are put together from two or three letters. -/
def firstSyllable : Nat := 0xac00

/-- The letters of a syllable: its beginning, its middle, and its end if there is one. -/
def syllableLetters? (c : Char) : Option (List Char) :=
  let n := c.toNat - firstSyllable
  if firstSyllable ≤ c.toNat && n < 11172 then
    let front := [Char.ofNat (0x1100 + n / 588), Char.ofNat (0x1161 + n % 588 / 28)]
    some (if n % 28 = 0 then front else front ++ [Char.ofNat (0x11a7 + n % 28)])
  else none

/-- The syllable of a beginning and a middle, or of an open syllable and an end. -/
def syllableOf? (front back : Char) : Option Char :=
  let f := front.toNat
  let b := back.toNat
  if 0x1100 ≤ f && f < 0x1113 && 0x1161 ≤ b && b < 0x1176 then
    some (Char.ofNat (firstSyllable + ((f - 0x1100) * 21 + (b - 0x1161)) * 28))
  else if firstSyllable ≤ f && f < firstSyllable + 11172 && (f - firstSyllable) % 28 = 0
      && 0x11a8 ≤ b && b < 0x11c3 then
    some (Char.ofNat (f + (b - 0x11a7)))
  else none

/-! ## Taking apart and putting together -/

/-- The most marks that one character can be put together with. -/
def maxMarks : Nat := 4

/-- The letter and the marks that a character is put together from. -/
def parts : Nat -> Char -> List Char
  | 0, c => [c]
  | fuel + 1, c =>
      match syllableLetters? c with
      | some letters => letters
      | none =>
          match compositions.find? fun (_, _, whole) => whole == c with
          | some (letter, mark, _) => parts fuel letter ++ [mark]
          | none => [c]

/-- Put a character before others; a mark moves behind marks of a lower order. -/
def putMark (c : Char) : List Char -> List Char
  | [] => [c]
  | d :: rest =>
      if markOrder d != 0 && markOrder d < markOrder c then d :: putMark c rest
      else c :: d :: rest

/-- The character that two characters make together. -/
def together? (front back : Char) : Option Char :=
  match compositions.find? fun (letter, mark, _) => letter == front && mark == back with
  | some (_, _, whole) => some whole
  | none => syllableOf? front back

/--
Put a letter together with the marks after it.  `kept` are the marks before the next one
that stay apart, the last one first; a mark can join the letter unless one of them has the
same order or a higher one.
-/
def joinMarks (letter : Char) (kept : List Char) : List Char -> List Char
  | [] => letter :: kept.reverse
  | c :: rest =>
      let order := markOrder c
      let apart := match kept with
        | [] => false
        | k :: _ => order ≤ markOrder k
      match if apart then none else together? letter c with
      | some whole => joinMarks whole kept rest
      | none =>
          if order = 0 then letter :: kept.reverse ++ joinMarks c [] rest
          else joinMarks letter (c :: kept) rest

/-- The normal form of a name. -/
def normalForm (cs : List Char) : List Char :=
  let apart := (cs.flatMap plainForm).flatMap (parts maxMarks)
  match apart.foldr putMark [] with
  | [] => []
  | c :: rest => joinMarks c [] rest

/-- A name that is written with characters of every script, in its normal form. -/
def normalName (cs : List Char) : List Char :=
  if cs.all fun c => c.toNat < 128 then cs else normalForm cs

end Text

end Workflow
