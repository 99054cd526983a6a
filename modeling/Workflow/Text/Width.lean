import Workflow.Text.Class
import Workflow.Text.Table.Width

/-!
# Widths of texts

How many columns a text takes where every column has the same width.  Some characters take
two columns and some none; those that a joiner follows form one sign with the next.
-/

namespace Workflow

namespace Text

/-- The number of columns that a character takes by itself. -/
def columnsOf (c : Char) : Nat :=
  if inClass Table.zeroWidth c then 0
  else if inClass Table.doubleWidth c then 2
  else 1

/-- The character that joins the sign before it with the character after it. -/
def joiner : Char := '\u200d'

/-- The character that asks for the sign before it to be shown in colour. -/
def colourSelector : Char := '\ufe0f'

/-- Signs of a text that belong together, and the columns they take. -/
structure Cluster where
  chars : List Char
  columns : Nat
  deriving Repr, DecidableEq

/-- A cluster with another character at its end, which may widen it. -/
def Cluster.extend (k : Cluster) (c : Char) (wider : Nat) : Cluster :=
  ⟨k.chars ++ [c], k.columns + wider⟩

/-- The columns that a colour selector adds to the last measured character. -/
def widening (last : Option Char) : Nat :=
  if last.any (inClass Table.widened) then 1 else 0

/--
The clusters of characters after those of `done`, the last one first; `last` is the last
character that took columns and was not asked to be shown in colour since.
-/
def clustersFrom (done : List Cluster) (last : Option Char) : List Char -> List Cluster
  | [] => done.reverse
  | c :: rest =>
      match done with
      | [] =>
          if c == joiner || c == colourSelector then clustersFrom [⟨[c], 0⟩] last rest
          else
            let n := columnsOf c
            clustersFrom [⟨[c], n⟩] (if n == 0 then last else some c) rest
      | k :: before =>
          if c == joiner then
            match rest with
            | [] => (k.extend c 0 :: before).reverse
            | d :: rest => clustersFrom ((k.extend c 0).extend d 0 :: before) last rest
          else if c == colourSelector then
            let n := widening last
            clustersFrom (k.extend c n :: before) (if n == 0 then last else none) rest
          else
            let n := columnsOf c
            if n == 0 then clustersFrom (k.extend c 0 :: before) last rest
            else clustersFrom (⟨[c], n⟩ :: k :: before) (some c) rest

/-- The clusters of a text. -/
def clusters (cs : List Char) : List Cluster :=
  clustersFrom [] none cs

/--
The number of columns of characters; a character after a joiner adds none.  `last` is the
last character that took columns and was not asked to be shown in colour since.
-/
def columnsFrom (last : Option Char) : List Char -> Nat
  | [] => 0
  | c :: rest =>
      if c == joiner then
        match rest with
        | [] => 0
        | _ :: rest => columnsFrom last rest
      else if c == colourSelector then widening last + columnsFrom none rest
      else
        let n := columnsOf c
        n + columnsFrom (if n == 0 then last else some c) rest

/-- The number of columns that a text takes. -/
def columns (cs : List Char) : Nat :=
  columnsFrom none cs

/-- The first clusters that fit into columns; half of a wide sign is left blank. -/
def crop : Nat -> List Cluster -> List Char
  | 0, _ => []
  | _ + 1, [] => []
  | room + 1, k :: rest =>
      if k.columns ≤ room + 1 then k.chars ++ crop (room + 1 - k.columns) rest else [' ']

/-- A text cut where it takes more columns than there are. -/
def cropTo (room : Nat) (cs : List Char) : List Char :=
  if columns cs ≤ room then cs else crop room (clusters cs)

/-- The rows of clusters after a row that is begun and the columns it uses. -/
def chopFrom (room used : Nat) (row : List Char) : List Cluster -> List (List Char)
  | [] => if used == 0 then [] else [row]
  | k :: rest =>
      if room < used + k.columns then row :: chopFrom room k.columns k.chars rest
      else chopFrom room (used + k.columns) (row ++ k.chars) rest

/-- The rows of a text that is broken wherever a row is full. -/
def chop (room : Nat) (cs : List Char) : List (List Char) :=
  chopFrom room 0 [] (clusters cs)

/-- Tabs are filled with blanks up to the next multiple of eight columns. -/
def fillTabs (used : Nat) (part : List Char) : List Char -> List Char
  | [] => part
  | '\t' :: rest =>
      let part := part ++ [' ']
      let used := used + columns part
      let more := (8 - used % 8) % 8
      part ++ List.replicate more ' ' ++ fillTabs (used + more) [] rest
  | c :: rest => fillTabs used (part ++ [c]) rest

end Text

end Workflow
