import Workflow.Yaml.Scalar
import Workflow.Text.Utf8

/-!
# Tokens of a document

A document is read as a list of tokens.  The indentation of block collections becomes
tokens of its own, and the start of a key is marked once the colon after it is found.
When the text is not well formed the list ends at the last token that could be told
before the fault was met.
-/

namespace Workflow

namespace Yaml

/-- What a token is. -/
inductive Sign where
  /-- The version of the language that a document asks for. -/
  | version (major minor : Nat)
  /-- A short name for the beginning of tags. -/
  | handle (name stem : String)
  /-- A directive that has no meaning here. -/
  | directive
  | documentStart
  | documentEnd
  | streamEnd
  | blockSequence
  | blockMapping
  | blockEnd
  | flowSequence
  | flowSequenceEnd
  | flowMapping
  | flowMappingEnd
  | entry
  | flowEntry
  | key
  | value
  | alias (name : String)
  | anchor (name : String)
  | tag (handle : Option String) (suffix : String)
  | scalar (text : String) (plain : Bool)
  deriving Repr, DecidableEq

/-- A sign and where it begins and ends. -/
structure Token where
  sign : Sign
  start : Mark
  stop : Mark
  deriving Repr

/-- A token that may turn out to be a key, should a colon follow it. -/
structure Candidate where
  /-- The number of the token. -/
  token : Nat
  /-- Whether nothing else may stand there. -/
  required : Bool
  index : Nat
  mark : Mark
  deriving Repr

/-- The state of reading tokens. -/
structure Scanner where
  cursor : Cursor
  tokens : Array Token
  /-- The number of tokens that were asked for. -/
  delivered : Nat
  /-- The open flow collections, innermost first; true for mappings. -/
  flow : List Bool
  /-- The column of the innermost block collection, counted from one. -/
  indent : Nat
  outer : List Nat
  keyAllowed : Bool
  /-- Candidates for keys with the depth of flow they stand at. -/
  candidates : List (Nat × Candidate)
  version : Nat × Nat
  finished : Bool

namespace Scanner

/-- The version documents are in that do not tell it. -/
def defaultVersion : Nat × Nat := (1, 2)

/-- The beginning of a document. -/
def start (cs : List Char) : Scanner :=
  ⟨Cursor.start cs, #[], 0, [], 0, [], true, [], defaultVersion, false⟩

end Scanner

/-- Computations on the state of reading tokens. -/
abbrev Scanning := EStateM ReadFault Scanner

namespace Scanning

/-- Read from the cursor. -/
def read (m : Scan α) : Scanning α := fun s =>
  match m s.cursor with
  | .ok a c => .ok a { s with cursor := c }
  | .error e c => .error e { s with cursor := c }

/-- Where the cursor stands. -/
def place : Scanning Mark := do
  pure (<- get).cursor.mark

/-- The next character. -/
def next : Scanning Char :=
  read Scan.peek

/-- The character after the next one. -/
def afterNext : Scanning Char :=
  read (Scan.peekAt 1)

/-- Add a token to the end. -/
def push (sign : Sign) (start stop : Mark) : Scanning Unit :=
  modify fun s => { s with tokens := s.tokens.push ⟨sign, start, stop⟩ }

/-- Add a token before the one with a number. -/
def insertAt (number : Nat) (sign : Sign) (mark : Mark) : Scanning Unit :=
  modify fun s => { s with tokens := s.tokens.insertIdxIfInBounds number ⟨sign, mark, mark⟩ }

/-- Read one token of some characters. -/
def pushSign (sign : Sign) (width : Nat) : Scanning Unit := do
  let start <- place
  read (Scan.skip width)
  push sign start (<- place)

/-- Whether the cursor is inside a flow collection. -/
def inFlow : Scanning Bool := do
  pure (!(<- get).flow.isEmpty)

/-- Say whether a key may come next. -/
def allowKey (allowed : Bool) : Scanning Unit :=
  modify fun s => { s with keyAllowed := allowed }

/-! ## Candidates for keys -/

/-- Drop the candidate at the present depth of flow. -/
def dropCandidate : Scanning Unit := do
  let s <- get
  match s.candidates.lookup s.flow.length with
  | none => pure ()
  | some c =>
      if c.required then read Scan.fail
      else set { s with candidates := s.candidates.filter fun p => p.1 != s.flow.length }

/-- The next token is a candidate, if a key may come next. -/
def addCandidate : Scanning Unit := do
  let s <- get
  if s.keyAllowed then do
    let required := s.flow.isEmpty && s.indent == s.cursor.mark.column + 1
    dropCandidate
    modify fun s =>
      let c : Candidate := ⟨s.tokens.size, required, s.cursor.index, s.cursor.mark⟩
      { s with candidates := (s.flow.length, c) :: s.candidates }
  else pure ()

/-- The longest distance between a key and its colon. -/
def maxKeyLength : Nat := 1024

/-- Whether the colon of a candidate can no longer come. -/
def isStale (s : Scanner) (c : Candidate) : Bool :=
  c.mark.line != s.cursor.mark.line || maxKeyLength < s.cursor.index - c.index

/-- Drop the candidates whose colon can no longer come. -/
def dropStale : Scanning Unit := do
  let s <- get
  let stale := s.candidates.filter fun p => isStale s p.2
  if stale.any fun p => p.2.required then read Scan.fail
  else set { s with candidates := s.candidates.filter fun p => !isStale s p.2 }

/-! ## Indentation -/

/-- End the block collections that stand further right than a column, counted from one. -/
def unwindTo (column : Nat) : Nat -> Scanning Unit
  | 0 => pure ()
  | fuel + 1 => do
      let s <- get
      if column < s.indent then do
        push .blockEnd s.cursor.mark s.cursor.mark
        modify fun s => { s with indent := s.outer.headD 0, outer := s.outer.tail }
        unwindTo column fuel
      else pure ()

/-- End the block collections that do not reach a column, counted from one. -/
def unwind (column : Nat) : Scanning Unit := do
  let s <- get
  if s.flow.isEmpty then unwindTo column (s.outer.length + 1) else pure ()

/-- Open a block collection at a column, if it stands further right than the last one. -/
def indentTo (column : Nat) : Scanning Bool := do
  let s <- get
  if s.indent < column + 1 then do
    set { s with indent := column + 1, outer := s.indent :: s.outer }
    pure true
  else pure false

/-! ## Spaces between tokens -/

/-- Pass over blanks, comments and line ends. -/
def skipSpaces : Nat -> Scanning Unit
  | 0 => pure ()
  | fuel + 1 => do
      let flow <- inFlow
      read (Scan.skipWhile fun c => c == ' ' || (flow && c == '\t'))
      if (<- next) == '#' then read (Scan.skipWhile fun c => !isLineEnd c)
      if isBreak (<- next) then do
        let _ <- read Scan.lineBreak
        if !flow then allowKey true
        skipSpaces fuel
      else pure ()

/-! ## Directives and tags -/

/-- Characters of the names of directives. -/
def isNameChar (c : Char) : Bool :=
  c.isAlphanum || c == '-' || c == '_'

/-- Digits of a version. -/
def readDigits : Scan Nat := do
  let digits <- Scan.takeWhile Char.isDigit
  if digits.isEmpty then Scan.fail
  else pure (digits.foldl (fun n c => n * 10 + (c.toNat - '0'.toNat)) 0)

/-- A version: two numbers with a point between them. -/
def readVersion : Scan Sign := do
  Scan.skipWhile (· == ' ')
  let major <- readDigits
  if (<- Scan.peek) != '.' then Scan.fail
  else do
    Scan.skip 1
    let minor <- readDigits
    if isWordEnd (<- Scan.peek) then pure (.version major minor) else Scan.fail

/-- The handle of a tag, between exclamation marks. -/
def readHandle : Scan String := do
  if (<- Scan.peek) != '!' then Scan.fail
  else do
    Scan.skip 1
    if (<- Scan.peek) == ' ' then pure "!"
    else do
      let name <- Scan.takeWhile isNameChar
      if (<- Scan.peek) != '!' then Scan.fail
      else do
        Scan.skip 1
        pure (String.ofList ('!' :: name ++ ['!']))

/-- Bytes written by two hexadecimal digits each after a percent sign. -/
def readEscapedBytes : Nat -> Scan (List UInt8)
  | 0 => pure []
  | fuel + 1 => do
      if (<- Scan.peek) != '%' then pure []
      else do
        Scan.skip 1
        match Json.hexDigit? (<- Scan.peek), Json.hexDigit? (<- Scan.peekAt 1) with
        | some high, some low => do
            Scan.skip 2
            pure (UInt8.ofNat (high * 16 + low) :: (<- readEscapedBytes fuel))
        | _, _ => Scan.fail

/-- Characters of the suffix of a tag. -/
def isTagChar (modern : Bool) (c : Char) : Bool :=
  c.isAlphanum || "-;/?:@&=+$,_.!~*'()[]".toList.contains c || (modern && c == '#')

/-- The suffix of a tag. -/
def readSuffixParts (modern : Bool) : Nat -> Scan (List Char)
  | 0 => pure []
  | fuel + 1 => do
      let c <- Scan.peek
      if c == '%' then do
        let place <- Scan.mark
        let bytes <- readEscapedBytes (<- Scan.remaining)
        match Text.decodeUtf8 bytes with
        | .ok cs => do pure (cs ++ (<- readSuffixParts modern fuel))
        | .error _ => throw (.malformed (some place))
      else if isTagChar modern c then do
        Scan.skip 1
        pure (c :: (<- readSuffixParts modern fuel))
      else pure []

/-- The suffix of a tag, which may not be empty. -/
def readSuffix (modern : Bool) : Scan String := do
  let fuel <- Scan.remaining
  let cs <- readSuffixParts modern (fuel + 1)
  if cs.isEmpty then Scan.fail else pure (String.ofList cs)

/-- A handle and the beginning of tags that it stands for. -/
def readHandleStem (modern : Bool) : Scan Sign := do
  Scan.skipWhile (· == ' ')
  let name <- readHandle
  if (<- Scan.peek) != ' ' then Scan.fail
  else do
    Scan.skipWhile (· == ' ')
    let stem <- readSuffix modern
    if isWordEnd (<- Scan.peek) then pure (.handle name stem) else Scan.fail

/-- A directive, up to the end of its line. -/
def readDirective (modern : Bool) : Scan (Sign × Mark × Mark) := do
  let start <- Scan.mark
  Scan.skip 1
  let name <- Scan.takeWhile fun c => isNameChar c || c == ':' || c == '.'
  if name.isEmpty || !isWordEnd (<- Scan.peek) then Scan.fail
  else do
    let sign <-
      if name == "YAML".toList then readVersion
      else if name == "TAG".toList then readHandleStem modern
      else pure .directive
    let stop <- Scan.mark
    if sign == .directive then Scan.skipWhile fun c => !isLineEnd c
    Scan.skipWhile (· == ' ')
    if (<- Scan.peek) == '#' then Scan.skipWhile fun c => !isLineEnd c
    if !isLineEnd (<- Scan.peek) then Scan.fail
    else do
      let _ <- Scan.lineBreak
      pure (sign, start, stop)

/-- Whether an exclamation mark comes before the next end of a word. -/
def hasSecondMark : List Char -> Bool
  | [] => false
  | c :: rest => if isWordEnd c then false else c == '!' || hasSecondMark rest

/-- A tag: a handle and a suffix, or the whole tag between angle brackets. -/
def readTag (modern : Bool) : Scan Sign := do
  let double := (<- Scan.peekAt 1) == '!'
  if double then Scan.skip 1
  let short := if double then "!!" else "!"
  let c <- Scan.peekAt 1
  let sign <-
    if c == '<' then do
      Scan.skip 2
      let whole <- readSuffix modern
      if (<- Scan.peek) != '>' then Scan.fail
      else do
        Scan.skip 1
        pure (Sign.tag none whole)
    else if isGap c then do
      Scan.skip 1
      pure (Sign.tag none short)
    else if hasSecondMark ((<- get).rest.drop 1) then do
      let handle <- readHandle
      pure (Sign.tag (some handle) (<- readSuffix modern))
    else do
      Scan.skip 1
      pure (Sign.tag (some short) (<- readSuffix modern))
  if isWordEnd (<- Scan.peek) then pure sign else Scan.fail

/-- Characters of the names of anchors. -/
def isAnchorChar (c : Char) : Bool :=
  !(",[]\x7b\x7d".toList.contains c) && ((0x21 ≤ c.toNat && c.toNat ≤ 0x7e)
    || (0xa0 ≤ c.toNat && c.toNat ≤ 0xfffd && c != '\ufeff') || 0x10000 ≤ c.toNat)

/-- The name after the mark of an anchor or an alias. -/
def readAnchor : Scan String := do
  Scan.skip 1
  let name <- Scan.takeWhile isAnchorChar
  let c <- Scan.peek
  if name.isEmpty || !(isWordEnd c || "\t?:,[]\x7b\x7d%@\x60".toList.contains c) then Scan.fail
  else pure (String.ofList name)

/-! ## Tokens -/

/-- Read a token that may be a key. -/
def keyLike (m : Scan Sign) : Scanning Unit := do
  addCandidate
  allowKey false
  let start <- place
  let sign <- read m
  push sign start (<- place)

/-- The end of the text. -/
def streamEnd : Scanning Unit := do
  unwind 0
  dropCandidate
  allowKey false
  let mark <- place
  push .streamEnd mark mark
  modify fun s => { s with candidates := [], finished := true }

/-- A directive at the beginning of a line. -/
def directive (modern : Bool) : Scanning Unit := do
  unwind 0
  dropCandidate
  allowKey false
  let (sign, start, stop) <- read (readDirective modern)
  push sign start stop
  match sign with
  | .version major minor => modify fun s => { s with version := (major, minor) }
  | _ => pure ()

/-- The mark of the beginning or the end of a document. -/
def documentMark (sign : Sign) : Scanning Unit := do
  unwind 0
  dropCandidate
  allowKey false
  pushSign sign 3

/-- The beginning of a flow collection. -/
def openFlow (sign : Sign) (mapping : Bool) : Scanning Unit := do
  addCandidate
  modify fun s => { s with flow := mapping :: s.flow }
  allowKey true
  pushSign sign 1

/-- The end of a flow collection. -/
def closeFlow (sign : Sign) : Scanning Unit := do
  dropCandidate
  modify fun s => { s with flow := s.flow.tail }
  allowKey false
  pushSign sign 1

/-- The comma between the parts of a flow collection. -/
def flowEntry : Scanning Unit := do
  allowKey true
  dropCandidate
  pushSign .flowEntry 1

/-- Open a block collection at the cursor, where one may begin. -/
def openBlock (sign : Sign) : Scanning Unit := do
  if <- inFlow then pure ()
  else do
    if !(<- get).keyAllowed then read Scan.fail
    let mark <- place
    if <- indentTo mark.column then push sign mark mark

/-- The dash before an item of a block sequence. -/
def blockEntry : Scanning Unit := do
  openBlock .blockSequence
  allowKey true
  dropCandidate
  pushSign .entry 1

/-- The question mark before a key. -/
def explicitKey : Scanning Unit := do
  openBlock .blockMapping
  allowKey (!(<- inFlow))
  dropCandidate
  pushSign .key 1

/-- The colon after a key. -/
def valueMark : Scanning Unit := do
  let s <- get
  match s.candidates.lookup s.flow.length with
  | some c => do
      set { s with candidates := s.candidates.filter fun p => p.1 != s.flow.length }
      insertAt c.token .key c.mark
      if s.flow.isEmpty then
        if <- indentTo c.mark.column then insertAt c.token .blockMapping c.mark
      allowKey false
  | none => do
      openBlock .blockMapping
      allowKey (!(<- inFlow))
      dropCandidate
  pushSign .value 1

/-- A block of lines. -/
def blockScalar (folded : Bool) : Scanning Unit := do
  allowKey true
  dropCandidate
  let start <- place
  let cs <- read (readBlock folded (<- get).indent)
  push (.scalar (String.ofList cs) false) start (<- place)

/-- Plain text. -/
def plainScalar (flow modern : Bool) : Scanning Unit := do
  addCandidate
  allowKey false
  let start <- place
  let (cs, ended) <- read (readPlain flow modern (<- get).indent)
  push (.scalar (String.ofList cs) true) start start
  allowKey ended

/-- Whether a colon ends a key here. -/
def isValueMark (modern : Bool) : Scanning Bool := do
  let s <- get
  let gap := isGap (<- afterNext)
  if !modern then pure (gap || !s.flow.isEmpty)
  else
    match s.flow with
    | [] => pure gap
    | false :: _ => pure gap
    | true :: _ =>
        let last := if s.delivered < s.tokens.size then s.tokens.back? else none
        pure (gap || (last.map (·.sign)) != some .value)

/-- Whether plain text may begin here. -/
def isPlainStart (flow modern : Bool) (c after : Char) : Bool :=
  let gap := isGap after
  !(isBreak c || c == endChar || "-?:,[]\x7b\x7d#&*!|>'\"%@\x60 \t".toList.contains c)
    || (modern && c == ':' && flow && !isBlank after)
    || (!gap && (c == '-' || (!flow && (c == '?' || c == ':'))))

/-- Read the next token, with those that stand for its indentation. -/
def fetch : Scanning Unit := do
  read do
    if (<- get).index == 0 && (<- Scan.peek) == '\ufeff' then Scan.skip 1
  skipSpaces ((<- get).cursor.rest.length + 1)
  dropStale
  unwind ((<- place).column + 1)
  let c <- next
  let after <- afterNext
  let first := (<- place).column == 0
  let flow <- inFlow
  let modern := (<- get).version != (1, 1)
  if c == endChar then streamEnd
  else if c == '%' && first then directive modern
  else if first && (<- read (Scan.atMarker ['-', '-', '-'])) then documentMark .documentStart
  else if first && (<- read (Scan.atMarker ['.', '.', '.'])) then documentMark .documentEnd
  else if c == '[' then openFlow .flowSequence false
  else if c == '\x7b' then openFlow .flowMapping true
  else if c == ']' then closeFlow .flowSequenceEnd
  else if c == '\x7d' then closeFlow .flowMappingEnd
  else if c == ',' then flowEntry
  else if c == '-' && isGap after then blockEntry
  else if c == '?' && (flow || isGap after) then explicitKey
  else if c == ':' && (<- isValueMark modern) then valueMark
  else if c == '*' then keyLike do pure (.alias (<- readAnchor))
  else if c == '&' then keyLike do pure (.anchor (<- readAnchor))
  else if c == '!' then keyLike (readTag modern)
  else if c == '|' && !flow then blockScalar false
  else if c == '>' && !flow then blockScalar true
  else if c == '\'' || c == '"' then
    keyLike do pure (.scalar (String.ofList (<- readQuoted)) false)
  else if isPlainStart flow modern c after then plainScalar flow modern
  else read Scan.fail

/-- Whether the token that is asked for cannot be told yet. -/
def needsMore : Scanning Bool := do
  let s <- get
  if s.finished then pure false
  else if s.tokens.size ≤ s.delivered then pure true
  else do
    dropStale
    pure ((<- get).candidates.any fun p => p.2.token == s.delivered)

/-- Ask for one token after the other until the text ends. -/
def deliverAll : Nat -> Scanning Unit
  | 0 => pure ()
  | fuel + 1 => do
      if <- needsMore then do
        fetch
        deliverAll fuel
      else if (<- get).delivered < (<- get).tokens.size then do
        modify fun s => { s with delivered := s.delivered + 1 }
        deliverAll fuel
      else pure ()

end Scanning

/-- The tokens of a document, and the fault that the list ends with when there is one. -/
def tokens (cs : List Char) : List Token × Option ReadFault :=
  match Scanning.deliverAll (8 * cs.length + 32) (Scanner.start cs) with
  | .ok _ s => (s.tokens.toList, none)
  | .error e s => (s.tokens.toList.take s.delivered, some e)

end Yaml

end Workflow
