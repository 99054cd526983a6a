import Workflow.Fault

/-!
# Cursors in a document

A place in the text of a YAML document, with the line and column it is shown as, and
the computations that read from there.
-/

namespace Workflow

namespace Yaml

/-- A line and a column, both counted from zero. -/
structure Mark where
  line : Nat
  column : Nat
  deriving Repr, DecidableEq, Inhabited

/-- Why a document has no value. -/
inductive ReadFault where
  /-- It is not well formed, at a mark when one is known. -/
  | malformed (mark : Option Mark)
  /-- A scalar is not a value of the type it is tagged with. -/
  | value (f : Fault)
  deriving Repr, DecidableEq

/-- The text from a place on. -/
structure Cursor where
  rest : List Char
  /-- The number of characters before the place. -/
  index : Nat
  mark : Mark
  deriving Repr

/-- The character that stands for the end of the text. -/
def endChar : Char := '\x00'

/-- Characters that end a line. -/
def isBreak (c : Char) : Bool :=
  c == '\n' || c == '\r' || c == '\x85' || c == '\u2028' || c == '\u2029'

/-- The end of a line or of the text. -/
def isLineEnd (c : Char) : Bool :=
  isBreak c || c == endChar

/-- The end of a line, a blank or a tab. -/
def isGap (c : Char) : Bool :=
  isLineEnd c || c == ' ' || c == '\t'

/-- The end of a line or a blank. -/
def isWordEnd (c : Char) : Bool :=
  isLineEnd c || c == ' '

/-- A blank or a tab. -/
def isBlank (c : Char) : Bool :=
  c == ' ' || c == '\t'

/-- Whether a character may stand in a document. -/
def isAllowed (c : Char) : Bool :=
  c == '\t' || c == '\n' || c == '\r' || (0x20 ≤ c.toNat && c.toNat ≤ 0x7e) || c == '\x85'
    || (0xa0 ≤ c.toNat && c.toNat ≤ 0xd7ff) || (0xe000 ≤ c.toNat && c.toNat ≤ 0xfffd)
    || 0x10000 ≤ c.toNat

namespace Cursor

/-- The beginning of a text. -/
def start (cs : List Char) : Cursor :=
  ⟨cs, 0, ⟨0, 0⟩⟩

/-- One character further.  Only feeds and returns count as lines in marks. -/
def step (c : Cursor) : Cursor :=
  match c.rest with
  | [] => c
  | x :: rest =>
      let mark : Mark :=
        if x == '\n' || (x == '\r' && rest.head? != some '\n') then ⟨c.mark.line + 1, 0⟩
        else if x == '\ufeff' then c.mark
        else ⟨c.mark.line, c.mark.column + 1⟩
      ⟨rest, c.index + 1, mark⟩

/-- Some characters further. -/
def advance (c : Cursor) : Nat -> Cursor
  | 0 => c
  | n + 1 => c.step.advance n

end Cursor

/-- Reading from a cursor. -/
abbrev Scan := EStateM ReadFault Cursor

namespace Scan

/-- The character some places further on. -/
def peekAt (n : Nat) : Scan Char := do
  pure ((<- get).rest.getD n endChar)

/-- The next character. -/
def peek : Scan Char :=
  peekAt 0

/-- Where the next character stands. -/
def mark : Scan Mark := do
  pure (<- get).mark

/-- Pass over some characters. -/
def skip (n : Nat) : Scan Unit :=
  modify fun c => c.advance n

/-- The number of characters that are left. -/
def remaining : Scan Nat := do
  pure (<- get).rest.length

/-- The longest run of characters with a property. -/
def takeWhile (p : Char -> Bool) : Scan (List Char) := do
  let run := (<- get).rest.takeWhile p
  skip run.length
  pure run

/-- Pass over the longest run of characters with a property. -/
def skipWhile (p : Char -> Bool) : Scan Unit := do
  let _ <- takeWhile p

/-- Fail at the next character. -/
def fail : Scan α := do
  throw (.malformed (some (<- mark)))

/-- Pass over a line end; what it counts as in text. -/
def lineBreak : Scan (List Char) := do
  match (<- get).rest with
  | '\r' :: '\n' :: _ => do skip 2; pure ['\n']
  | c :: _ =>
      if c == '\n' || c == '\r' || c == '\x85' then do skip 1; pure ['\n']
      else if c == '\u2028' || c == '\u2029' then do skip 1; pure [c]
      else pure []
  | [] => pure []

/-- Whether a marker of three characters that stands alone comes next. -/
def atMarker (marker : List Char) : Scan Bool := do
  pure (marker.isPrefixOf (<- get).rest && isGap (<- peekAt 3))

/-- Whether a document begins or ends next, wherever the line stands. -/
def atSeparator : Scan Bool := do
  pure ((<- atMarker ['-', '-', '-']) || (<- atMarker ['.', '.', '.']))

end Scan

end Yaml

end Workflow
