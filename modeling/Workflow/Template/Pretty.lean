import Workflow.Text.Search
import Workflow.Value.Text
import Workflow.Value.Order

/-!
# Values over several lines

The literal text of a value, with dictionaries sorted by their keys.  What is too long
for a line is put on several: each item on a line of its own, and long texts cut at
their blanks.
-/

namespace Workflow

namespace Template

namespace Pretty

/-- The width of a line. -/
def lineWidth : Nat := 80

/-- Whether a key stands before another: keys that have no order are ordered by the names of their types. -/
def keyBefore (a b : Value) : Outcome Bool :=
  match Value.related .lt a b with
  | .ok less => .ok less
  | .error _ => .ok (a.kind < b.kind)

/-- Items sorted by their keys. -/
def byKeys (items : List (Value × α)) : Outcome (List (Value × α)) :=
  Value.sortBy (fun a b => keyBefore a.1 b.1) items

mutual

/-- The literal text of a value on one line. -/
def line (v : Value) : Outcome String :=
  match v with
  | .object _ content => line content
  | .dict entries => do
      let members <- byKeys (entryLines entries)
      let texts <- members.mapM (·.2)
      .ok ("\x7b" ++ ", ".intercalate texts ++ "\x7d")
  | .list xs => do .ok ("[" ++ ", ".intercalate (<- lines xs) ++ "]")
  | .tuple xs => do
      match <- lines xs with
      | [s] => .ok ("(" ++ s ++ ",)")
      | ss => .ok ("(" ++ ", ".intercalate ss ++ ")")
  | v => .ok v.literal

/-- The literal texts of items. -/
def lines : List Value -> Outcome (List String)
  | [] => .ok []
  | x :: rest => do
      let s <- line x
      .ok (s :: (<- lines rest))

/-- The keys of entries, with the texts of the entries. -/
def entryLines : List (Value × Value) -> List (Value × Outcome String)
  | [] => []
  | (k, v) :: rest =>
      let text : Outcome String := do
        let key <- line k
        .ok (key ++ ": " ++ (<- line v))
      (k, text) :: entryLines rest

end

/-- The start of a new line at an indentation. -/
def newLine (indent : Nat) : String :=
  "\n" ++ String.ofList (List.replicate indent ' ')

/-- A text cut behind each run of white space. -/
def cutAtBlanks : Nat -> List Char -> List (List Char)
  | 0, _ => []
  | _ + 1, [] => []
  | fuel + 1, cs =>
      let word := cs.takeWhile fun c => !Text.isBlank c
      let blanks := (cs.drop word.length).takeWhile Text.isBlank
      let part := word ++ blanks
      part :: cutAtBlanks fuel (cs.drop part.length)

/-- The literal of characters. -/
def quoted (cs : List Char) : String :=
  (Value.str (String.ofList cs)).literal

/-- Put parts together as long as their literal is within a width, which is narrower for the last part. -/
def gather (width last : Nat) (current : List Char) : List (List Char) -> List String
  | [] => if current.isEmpty then [] else [quoted current]
  | part :: rest =>
      let width' := if rest.isEmpty then width - last else width
      let candidate := current ++ part
      if width' < (quoted candidate).length then
        (if current.isEmpty then [] else [quoted current]) ++ gather width last part rest
      else gather width last candidate rest

/-- The literals of the lines of a text, long ones cut; the last line leaves room for what follows. -/
def textChunks (width allowance : Nat) : List (List Char) -> List String
  | [] => []
  | l :: rest =>
      let isLast := rest.isEmpty
      let room := if isLast then width - allowance else width
      let rep := quoted l
      let chunks :=
        if rep.length ≤ room then [rep]
        else gather width (if isLast then allowance else 0) [] (cutAtBlanks l.length l)
      chunks ++ textChunks width allowance rest

/-- A text over several lines; brackets stand around one that is no part of another value. -/
def textLayout (s : String) (indent allowance : Nat) (top : Bool) : String :=
  let indent := if top then indent + 1 else indent
  let allowance := if top then allowance + 1 else allowance
  let chunks := textChunks (lineWidth - indent) allowance
    (Text.splitLines Text.isLineEnd true s.toList)
  match chunks with
  | [] => (Value.str s).literal
  | [rep] => rep
  | chunks =>
      let body := (newLine indent).intercalate chunks
      if top then "(" ++ body ++ ")" else body

/-- Bytes in groups of four. -/
def fours : Nat -> List UInt8 -> List (List UInt8)
  | 0, _ => []
  | fuel + 1, data => if data.isEmpty then [] else data.take 4 :: fours fuel (data.drop 4)

/-- Put groups of bytes together as long as their literal is within a width, which is narrower for a group that is not full. -/
def gatherBytes (width last : Nat) (current : List UInt8) : List (List UInt8) -> List String
  | [] => if current.isEmpty then [] else [(Value.bytes current).literal]
  | part :: rest =>
      let width := if part.length < 4 then width - last else width
      let candidate := current ++ part
      if width < (Value.bytes candidate).literal.length then
        (if current.isEmpty then [] else [(Value.bytes current).literal])
          ++ gatherBytes width last part rest
      else gatherBytes width last candidate rest

/-- Bytes over several lines. -/
def bytesLayout (data : List UInt8) (indent allowance : Nat) (top : Bool) : String :=
  if data.length ≤ 4 then (Value.bytes data).literal
  else
    let indent := if top then indent + 1 else indent
    let allowance := if top then allowance + 1 else allowance
    let body := (newLine indent).intercalate
      (gatherBytes (lineWidth - indent) allowance [] (fours data.length data))
    if top then "(" ++ body ++ ")" else body

/-- How a part is laid out: from an indentation, leaving room for what follows it. -/
abbrev Layout := Nat -> Nat -> Outcome String

/-- Parts on lines of their own; the last one leaves room for what follows. -/
def stacked (indent allowance : Nat) : List Layout -> Outcome (List String)
  | [] => .ok []
  | [part] => do .ok [<- part indent allowance]
  | part :: rest => do
      let s <- part indent 1
      .ok (s :: (<- stacked indent allowance rest))

/-- Parts between brackets, on lines of their own. -/
def enclosed (opening closing : String) (parts : List Layout) : Layout := fun indent allowance => do
  let texts <- stacked (indent + 1) (allowance + closing.length) parts
  .ok (opening ++ ("," ++ newLine (indent + 1)).intercalate texts ++ closing)

/-- A part on one line where it fits, or else over several. -/
def fitted (text : Outcome String) (spread : Layout) : Layout := fun indent allowance => do
  let s <- text
  if s.length + indent + allowance ≤ lineWidth then .ok s else spread indent allowance

/-- The layout of an entry behind its key. -/
def entryLayout (key : Outcome String) (value : Layout) : Layout := fun indent allowance => do
  let k <- key
  .ok (k ++ ": " ++ (<- value (indent + k.length + 2) allowance))

mutual

/-- The layout of a value. -/
def layout (top : Bool) (v : Value) : Layout :=
  match v with
  | .object _ content => layout top content
  | .str s => fitted (.ok v.literal) fun indent allowance =>
      .ok (textLayout s indent allowance top)
  | .bytes data => fitted (.ok v.literal) fun indent allowance =>
      .ok (bytesLayout data indent allowance top)
  | .list xs => fitted (line v) (enclosed "[" "]" (layouts xs))
  | .tuple xs =>
      fitted (line v) (enclosed "(" (if xs.length = 1 then ",)" else ")") (layouts xs))
  | .set xs => fitted (line v) fun indent allowance => do
      let sorted <- byKeys (keyedLayouts xs)
      enclosed "\x7b" "\x7d" (sorted.map (·.2)) indent allowance
  | .dict entries => fitted (line v) fun indent allowance => do
      let sorted <- byKeys (entryLayouts entries)
      enclosed "\x7b" "\x7d" (sorted.map (·.2)) indent allowance
  | .sealed entries => fitted (line v) fun indent allowance => do
      let inner := fitted (line (.dict entries)) fun indent allowance => do
        let sorted <- byKeys (entryLayouts entries)
        enclosed "\x7b" "\x7d" (sorted.map (·.2)) indent allowance
      .ok ("mappingproxy(" ++ (<- inner (indent + 13) (allowance + 1)) ++ ")")
  | v => fun _ _ => .ok v.literal

/-- The layouts of items. -/
def layouts : List Value -> List Layout
  | [] => []
  | x :: rest => layout false x :: layouts rest

/-- Items with their layouts. -/
def keyedLayouts : List Value -> List (Value × Layout)
  | [] => []
  | x :: rest => (x, layout false x) :: keyedLayouts rest

/-- The keys of entries, with the layouts of the entries. -/
def entryLayouts : List (Value × Value) -> List (Value × Layout)
  | [] => []
  | (k, v) :: rest => (k, entryLayout (line k) (layout false v)) :: entryLayouts rest

end

/-- The text of a value over as many lines as it needs. -/
def text (v : Value) : Outcome String := do
  if v.exceedsDigits then .error Value.tooManyDigits
  layout true v 0 0

end Pretty

end Template

end Workflow
