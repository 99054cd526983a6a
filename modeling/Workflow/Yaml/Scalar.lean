import Workflow.Yaml.Cursor
import Workflow.Json.Reading

/-!
# Scalars

The three ways of writing text in a document: plain, between quotes, and as a block of
lines.  Each reader starts at the first character and stops after the last one.
-/

namespace Workflow

namespace Yaml

open Scan

/-! ## Plain text -/

/-- The line breaks and blanks between two words, up to so many lines. -/
def plainBreaks : Nat -> Scan (Option (List Char))
  | 0 => pure (some [])
  | fuel + 1 => do
      let c <- peek
      if c == ' ' then do
        skip 1
        plainBreaks fuel
      else if isBreak c then do
        let b <- lineBreak
        if <- atSeparator then pure none
        else do pure ((<- plainBreaks fuel).map (b ++ ·))
      else pure (some [])

/--
What stands between two words of plain text, and whether a line ended.  There is none
when the document ends or another one begins.
-/
def plainSpaces : Scan (List Char × Bool) := do
  let blanks <- takeWhile (· == ' ')
  if isBreak (<- peek) then do
    let first <- lineBreak
    if <- atSeparator then pure ([], true)
    else do
      match <- plainBreaks ((<- remaining) + 1) with
      | none => pure ([], true)
      | some breaks =>
          let folded := if first != ['\n'] then first else if breaks.isEmpty then [' '] else []
          pure (folded ++ breaks, true)
  else pure (blanks, false)

/-- The number of characters of plain text before a character that ends it. -/
def plainRun (flow modern : Bool) : List Char -> Nat
  | [] => 0
  | c :: rest =>
      let next := rest.headD endChar
      if c == ':' && !isGap next then plainRun flow modern rest + 1
      else if c == '?' && modern then plainRun flow modern rest + 1
      else if isGap c || c == ':' then 0
      else if flow && [',', '?', '[', ']', '\x7b', '\x7d'].contains c then 0
      else plainRun flow modern rest + 1

/--
Plain text whose lines are indented by at least `indent`.  Tells whether a line ended
after its last word, so that a key may follow.
-/
def readPlainWords (flow modern : Bool) (indent : Nat) :
    Nat -> List Char -> Bool -> Scan (List Char × Bool)
  | 0, _, ended => pure ([], ended)
  | fuel + 1, spaces, ended => do
      if (<- peek) == '#' then pure ([], ended)
      else do
        let length := plainRun flow modern (<- get).rest
        if length = 0 then pure ([], ended)
        else do
          let word := (<- get).rest.take length
          skip length
          let (next, ended) <- plainSpaces
          let low := !flow && (<- mark).column < indent
          if next.isEmpty || (<- peek) == '#' || low then pure (spaces ++ word, ended)
          else do
            let (more, ended) <- readPlainWords flow modern indent fuel next ended
            pure (spaces ++ word ++ more, ended)

/-- Plain text, and whether a line ended after it. -/
def readPlain (flow modern : Bool) (indent : Nat) : Scan (List Char × Bool) := do
  readPlainWords flow modern indent ((<- remaining) + 1) [] false

/-! ## Quoted text -/

/-- What a letter after a backslash stands for. -/
def escaped? : Char -> Option Char
  | '0' => some '\x00'
  | 'a' => some '\x07'
  | 'b' => some '\x08'
  | 't' => some '\t'
  | '\t' => some '\t'
  | 'n' => some '\n'
  | 'v' => some '\x0b'
  | 'f' => some '\x0c'
  | 'r' => some '\r'
  | 'e' => some '\x1b'
  | ' ' => some ' '
  | '"' => some '"'
  | '/' => some '/'
  | '\\' => some '\\'
  | 'N' => some '\x85'
  | '_' => some '\xa0'
  | 'L' => some '\u2028'
  | 'P' => some '\u2029'
  | _ => none

/-- The number of digits that follow a letter after a backslash. -/
def escapeWidth? : Char -> Option Nat
  | 'x' => some 2
  | 'u' => some 4
  | 'U' => some 8
  | _ => none

/-- The value of hexadecimal digits. -/
def hexValue (cs : List Char) : Nat :=
  cs.foldl (fun n c => n * 16 + (Json.hexDigit? c).getD 0) 0

/-- Line breaks inside quoted text. -/
def quotedBreaks : Nat -> Scan (List Char)
  | 0 => pure []
  | fuel + 1 => do
      if <- atSeparator then fail
      else do
        skipWhile isBlank
        if isBreak (<- peek) then do
          let b <- lineBreak
          pure (b ++ (<- quotedBreaks fuel))
        else pure []

/-- What a backslash and the characters after it stand for. -/
def readEscape : Scan (List Char) := do
  skip 1
  let c <- peek
  match escaped? c with
  | some d => do skip 1; pure [d]
  | none =>
      match escapeWidth? c with
      | some width => do
          skip 1
          let digits := (<- get).rest.take width
          if digits.length == width && digits.all (fun d => (Json.hexDigit? d).isSome) then do
            skip width
            let n := hexValue digits
            if 0x10ffff < n then throw (.value (.badValue "chr() arg not in range(0x110000)"))
            else pure [Json.charOf n]
          else fail
      | none =>
          if isBreak c then do
            let _ <- lineBreak
            quotedBreaks ((<- remaining) + 1)
          else fail

/-- Blanks and line breaks inside quoted text. -/
def quotedSpaces : Scan (List Char) := do
  let blanks <- takeWhile isBlank
  let c <- peek
  if c == endChar then fail
  else if isBreak c then do
    let first <- lineBreak
    let breaks <- quotedBreaks ((<- remaining) + 1)
    let folded := if first != ['\n'] then first else if breaks.isEmpty then [' '] else []
    pure (folded ++ breaks)
  else pure blanks

/-- The rest of quoted text, up to and with its closing quote. -/
def readQuotedRest (quote : Char) : Nat -> Scan (List Char)
  | 0 => fail
  | fuel + 1 => do
      let c <- peek
      if c == quote then
        if quote == '\'' && (<- peekAt 1) == '\'' then do
          skip 2
          pure ('\'' :: (<- readQuotedRest quote fuel))
        else do
          skip 1
          pure []
      else if c == '\\' && quote == '"' then do
        let front <- readEscape
        pure (front ++ (<- readQuotedRest quote fuel))
      else if isBlank c || isBreak c || c == endChar then do
        let front <- quotedSpaces
        pure (front ++ (<- readQuotedRest quote fuel))
      else do
        skip 1
        pure (c :: (<- readQuotedRest quote fuel))

/-- Text between quotes. -/
def readQuoted : Scan (List Char) := do
  let quote <- peek
  skip 1
  readQuotedRest quote ((<- remaining) + 1)

/-! ## Blocks of lines -/

/-- What becomes of the line ends after the last line of a block. -/
inductive Chomping where
  | strip
  | clip
  | keep
  deriving Repr, DecidableEq

/-- The sign after the mark of a block. -/
def readChomping : Scan (Option Chomping) := do
  let c <- peek
  if c == '+' then do skip 1; pure (some .keep)
  else if c == '-' then do skip 1; pure (some .strip)
  else pure none

/-- The digit after the mark of a block, which gives its indentation. -/
def readIncrement : Scan (Option Nat) := do
  let c <- peek
  if c == '0' then fail
  else if c.isDigit then do skip 1; pure (some (c.toNat - '0'.toNat))
  else pure none

/-- The header of a block, up to the end of its line. -/
def readBlockHeader : Scan (Chomping × Option Nat) := do
  let first <- readChomping
  let increment <- readIncrement
  let second <- if first.isNone && increment.isSome then readChomping else pure none
  if !isWordEnd (<- peek) then fail
  else do
    skipWhile (· == ' ')
    if (<- peek) == '#' then skipWhile fun c => !isLineEnd c
    if !isLineEnd (<- peek) then fail
    else do
      let _ <- lineBreak
      pure ((first.orElse fun _ => second).getD .clip, increment)

/-- Pass over blanks up to a column. -/
def skipIndent (indent : Nat) : Nat -> Scan Unit
  | 0 => pure ()
  | fuel + 1 => do
      if (<- mark).column < indent && (<- peek) == ' ' then do
        skip 1
        skipIndent indent fuel
      else pure ()

/-- Empty lines of a block, up to the indentation of the next line. -/
def blockBreaks (indent : Nat) : Nat -> Scan (List Char)
  | 0 => pure []
  | fuel + 1 => do
      skipIndent indent indent
      if isBreak (<- peek) then do
        let b <- lineBreak
        pure (b ++ (<- blockBreaks indent fuel))
      else pure []

/--
The empty lines before the first line of a block, the deepest indentation among them
and that of the first one that has one.
-/
def blockLead : Nat -> Nat -> Option Nat -> Scan (List Char × Nat)
  | 0, deepest, _ => pure ([], deepest)
  | fuel + 1, deepest, first => do
      let c <- peek
      let column := (<- mark).column
      if c == ' ' then do
        skip 1
        blockLead fuel (max deepest (column + 1)) first
      else if isBreak c then do
        let b <- lineBreak
        let (bs, deepest) <- blockLead fuel deepest (first.orElse fun _ => some column)
        pure (b ++ bs, deepest)
      else
        match first with
        | some n => if 0 < n && n < deepest then throw (.malformed none) else pure ([], deepest)
        | none => pure ([], deepest)

/-- The lines of a block: its text, the last line end, and the empty lines after it. -/
def blockLines (folded topLevel : Bool) (indent : Nat) :
    Nat -> List Char -> Scan (List Char × List Char × List Char)
  | 0, breaks => pure ([], [], breaks)
  | fuel + 1, breaks => do
      if (<- mark).column != indent || (<- peek) == endChar then pure ([], [], breaks)
      else do
        let flush := !isBlank (<- peek)
        let line <- takeWhile fun c => !isLineEnd c
        let ending <- lineBreak
        let next <- blockBreaks indent ((<- remaining) + 1)
        let ended := topLevel && (<- mark).column == 0 && (<- atSeparator)
        if ended || (<- mark).column != indent || (<- peek) == endChar then
          pure (breaks ++ line, ending, next)
        else do
          let joint :=
            if folded && ending == ['\n'] && flush && !isBlank (<- peek) then
              if next.isEmpty then [' '] else []
            else ending
          let (text, ending, next) <- blockLines folded topLevel indent fuel next
          pure (breaks ++ line ++ joint ++ text, ending, next)

/-- A block of lines that stands at least at the given indentation. -/
def readBlock (folded : Bool) (least : Nat) : Scan (List Char) := do
  skip 1
  let (chomping, increment) <- readBlockHeader
  let fuel := (<- remaining) + 1
  let (breaks, indent) <- match increment with
    | none => do
        let (breaks, deepest) <- blockLead fuel 0 none
        pure (breaks, max least deepest)
    | some n => do
        let indent := max least 1 + n - 1
        pure ((<- blockBreaks indent fuel), indent)
  let topLevel := least == 0 && increment.isNone
  let (text, ending, after) <- blockLines folded topLevel indent fuel breaks
  pure <| match chomping with
    | .strip => text
    | .clip => text ++ ending
    | .keep => text ++ ending ++ after

end Yaml

end Workflow
