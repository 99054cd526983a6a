import Workflow.Yaml.Token
import Workflow.Text.Search

/-!
# Nodes of a document

The tree of scalars, sequences and mappings that the tokens of a document stand for.
Each node carries its tag; an alias stands for the node of its anchor.
-/

namespace Workflow

namespace Yaml

/-- A node with its tag and where it begins. -/
inductive Node where
  | scalar (tag text : String) (mark : Mark)
  | sequence (tag : String) (items : List Node) (mark : Mark)
  | mapping (tag : String) (entries : List (Node × Node)) (mark : Mark)
  deriving Repr, Inhabited

namespace Node

/-- Where a node begins. -/
def mark : Node -> Mark
  | scalar _ _ m => m
  | sequence _ _ m => m
  | mapping _ _ m => m

/-- The tag of a node. -/
def tag : Node -> String
  | scalar t _ _ => t
  | sequence t _ _ => t
  | mapping t _ _ => t

/-- What a node is called. -/
def kind : Node -> String
  | scalar .. => "scalar"
  | sequence .. => "sequence"
  | mapping .. => "mapping"

end Node

/-- The beginning of the tags of the language itself. -/
def coreStem : String := "tag:yaml.org,2002:"

/-- A tag of the language itself. -/
def coreTag (name : String) : String := coreStem ++ name

/-! ## Tags of plain text -/

/-- Characters left after an optional sign. -/
def afterSign : List Char -> List Char
  | '+' :: rest => rest
  | '-' :: rest => rest
  | cs => cs

/-- Digits and underscores. -/
def isDigitOrBar (c : Char) : Bool :=
  c.isDigit || c == '_'

/-- Whether a text is an exponent, whose sign may be left out when `bare`. -/
def isExponent (bare : Bool) : List Char -> Bool
  | e :: rest =>
      let digits := afterSign rest
      (e == 'e' || e == 'E') && (bare || digits.length < rest.length) && !digits.isEmpty
        && digits.all Char.isDigit
  | [] => false

/-- Whether a text is a number of sixtieths: one digit, or two that are below sixty. -/
def isSixtieths : List Char -> Bool
  | [c] => c.isDigit
  | [b, c] => '0' ≤ b && b ≤ '5' && c.isDigit
  | _ => false

/-- Whether a text counts by sixties: a number, then sixtieths after colons. -/
def isBySixties (cs : List Char) : Bool :=
  match Text.splitAll [':'] cs.length cs with
  | (c :: rest) :: parts =>
      c.isDigit && rest.all isDigitOrBar && !parts.isEmpty && parts.all isSixtieths
  | _ => false

/-- Whether a text counts by sixties and has a fraction. -/
def isFractionBySixties (cs : List Char) : Bool :=
  match Text.cutAt? ['.'] cs with
  | some (whole, fraction) => isBySixties whole && fraction.all isDigitOrBar
  | none => false

/-- Whether plain text is a number with a fraction or an exponent. -/
def isFloatText (modern : Bool) (cs : List Char) : Bool :=
  let body := afterSign cs
  (!modern && isFractionBySixties body) ||
  let signed := body.length < cs.length
  match body with
  | '.' :: rest =>
      let fraction := rest.takeWhile isDigitOrBar
      let tail := rest.drop fraction.length
      let word := String.ofList rest
      (!fraction.isEmpty && (modern || !signed) && (tail.isEmpty || isExponent false tail))
        || ["inf", "Inf", "INF"].contains word
        || (!signed && ["nan", "NaN", "NAN"].contains word)
  | c :: _ =>
      let whole := body.takeWhile isDigitOrBar
      let tail := body.drop whole.length
      c.isDigit && match tail with
        | '.' :: rest =>
            let after := rest.dropWhile isDigitOrBar
            after.isEmpty || isExponent true after
        | _ => isExponent true tail
  | [] => false

/-- Whether text is not empty and of characters with a property. -/
def isRun (p : Char -> Bool) (cs : List Char) : Bool :=
  !cs.isEmpty && cs.all p

/-- Whether a text is made of digits to a base below eight, and underscores. -/
def isOctalRun (cs : List Char) : Bool :=
  isRun (fun c => ('0' ≤ c && c ≤ '7') || c == '_') cs

/-- Whether plain text is an integer. -/
def isIntText (modern : Bool) (cs : List Char) : Bool :=
  let body := afterSign cs
  match body with
  | '0' :: 'b' :: rest => isRun (fun c => c == '0' || c == '1' || c == '_') rest
  | '0' :: 'x' :: rest => isRun (fun c => (Json.hexDigit? c).isSome || c == '_') rest
  | '0' :: 'o' :: rest => modern && isOctalRun rest
  | '0' :: rest =>
      if modern then rest.all isDigitOrBar
      else rest.isEmpty || isOctalRun rest
  | c :: rest =>
      let signed := body.length < cs.length
      ((c.isDigit || (modern && signed && c == '_')) && rest.all isDigitOrBar)
        || (!modern && isBySixties body)
  | [] => false

/-- One or two digits at the front, and what follows. -/
def takeOneOrTwo? (cs : List Char) : Option (Nat × List Char) :=
  (takeDigits 2 cs).orElse fun _ => takeDigits 1 cs
where
  /-- So many digits at the front. -/
  takeDigits (n : Nat) (cs : List Char) : Option (Nat × List Char) :=
    DateTime.takeNumber? n cs

/-- What follows a character at the front. -/
def dropChar? (c : Char) : List Char -> Option (List Char)
  | x :: rest => if x == c then some rest else none
  | [] => none

/-- A moment as it is written: its parts and its zone, when they are given. -/
structure Timestamp where
  date : Date
  /-- Hour, minute and second. -/
  time : Option (Nat × Nat × Nat)
  /-- The digits of the fraction of a second. -/
  fraction : List Char
  zone : Option Zone
  deriving Repr

/-- The zone at the end of the text, which is named as it is written. -/
def readZone? (cs : List Char) : Option (Option Zone) :=
  let written := cs.dropWhile isBlank
  let name := String.ofList written
  match written with
  | [] => if cs.isEmpty then some none else none
  | ['Z'] => some (some ⟨0, some name⟩)
  | sign :: rest => do
      let negative <- if sign == '-' then some true else if sign == '+' then some false else none
      let (hours, rest) <- takeOneOrTwo? rest
      let minutes <- match rest with
        | [] => some 0
        | ':' :: more => do
            let (m, rest) <- DateTime.takeNumber? 2 more
            if rest.isEmpty then some m else none
        | _ => none
      let n : Int := (hours * 60 + minutes : Nat)
      some (some ⟨if negative then -n else n, some name⟩)

/-- Read a date, or a date and a time. -/
def readTimestamp? (cs : List Char) : Option Timestamp := do
  let (year, rest) <- DateTime.takeNumber? 4 cs
  let (month, rest) <- takeOneOrTwo? (<- dropChar? '-' rest)
  let (day, rest) <- takeOneOrTwo? (<- dropChar? '-' rest)
  let date : Date := ⟨year, month, day⟩
  if rest.isEmpty then some ⟨date, none, [], none⟩
  else do
    let rest <- match rest with
      | 'T' :: more => some more
      | 't' :: more => some more
      | c :: _ => if isBlank c then some (rest.dropWhile isBlank) else none
      | [] => none
    let (hour, rest) <- takeOneOrTwo? rest
    let (minute, rest) <- DateTime.takeNumber? 2 (<- dropChar? ':' rest)
    let (second, rest) <- DateTime.takeNumber? 2 (<- dropChar? ':' rest)
    let (fraction, rest) := match rest with
      | '.' :: more => more.span Char.isDigit
      | _ => ([], rest)
    some ⟨date, some (hour, minute, second), fraction, (<- readZone? rest)⟩

/-- Whether plain text is a moment; a date alone has two digits for month and day. -/
def isTimestampText (cs : List Char) : Bool :=
  match readTimestamp? cs with
  | some t => t.time.isSome || cs.length == 10
  | none => false

/-- The words for truth values. -/
def truthWords (modern : Bool) : List String :=
  ["true", "True", "TRUE", "false", "False", "FALSE"]
    ++ (if modern then []
      else ["y", "Y", "yes", "Yes", "YES", "n", "N", "no", "No", "NO", "on", "On", "ON", "off",
        "Off", "OFF"])

/-- A text without the line end that may follow it. -/
def beforeLineEnd (s : String) : String :=
  if s.endsWith "\n" && s != "\n" then (s.dropEnd 1).toString else s

/-- The tag of a text that has none; a line end after it does not count. -/
def plainTag (modern : Bool) (written : String) : String :=
  let s := beforeLineEnd written
  let cs := s.toList
  coreTag <|
    if (truthWords modern).contains s then "bool"
    else if isFloatText modern cs then "float"
    else if isIntText modern cs then "int"
    else if s == "<<" then "merge"
    else if ["", "~", "null", "Null", "NULL"].contains s then "null"
    else if isTimestampText cs then "timestamp"
    else if s == "=" then "value"
    else "str"

/-! ## From tokens to nodes -/

/-- The state of reading nodes. -/
structure Parser where
  tokens : List Token
  /-- The fault that the tokens end with. -/
  fault : ReadFault
  /-- The nodes of the anchors; none for those that are still being read. -/
  anchors : List (String × Option Node)
  handles : List (String × String)
  version : Nat × Nat

/-- Computations on the state of reading nodes. -/
abbrev Parsing := EStateM ReadFault Parser

namespace Parsing

/-- Whether the document is in a version after 1.1. -/
def isModern : Parsing Bool := do
  let (major, minor) := (<- get).version
  pure (1 < major || 1 < minor)

/-- The next token. -/
def peek : Parsing Token := do
  let s <- get
  match s.tokens with
  | t :: _ => pure t
  | [] => throw s.fault

/-- Pass over the next token. -/
def skip : Parsing Unit :=
  modify fun s => { s with tokens := s.tokens.tail }

/-- Fail at a mark. -/
def failAt (m : Mark) : Parsing α :=
  throw (.malformed (some m))

/-- Fail at the next token. -/
def fail : Parsing α := do
  failAt (<- peek).start

/-- Whether the next token is one of some signs. -/
def isNext (signs : List Sign) : Parsing Bool := do
  pure (signs.contains (<- peek).sign)

/-- The node that stands where nothing is written. -/
def emptyNode (m : Mark) : Node :=
  .scalar (coreTag "null") "" m

/-- The whole of a tag whose beginning may be a handle. -/
def wholeTag (handle : Option String) (suffix : String) (m : Mark) : Parsing String := do
  match handle with
  | none => pure suffix
  | some h =>
      match (<- get).handles.lookup h with
      | some stem => pure (stem ++ suffix)
      | none => failAt m

/-- What may stand before a node. -/
structure Properties where
  anchor : Option String
  tag : Option String
  start : Option Mark
  stop : Mark

/-- Read anchor and tag, in either order. -/
def properties : Parsing Properties := do
  let first <- peek
  match first.sign with
  | .anchor a => do
      skip
      let second <- peek
      match second.sign with
      | .tag h s => do
          skip
          pure ⟨some a, some (<- wholeTag h s second.start), some first.start, second.stop⟩
      | _ => pure ⟨some a, none, some first.start, first.stop⟩
  | .tag h s => do
      skip
      let second <- peek
      match second.sign with
      | .anchor a => do
          skip
          pure ⟨some a, some (<- wholeTag h s first.start), some first.start, second.stop⟩
      | _ => pure ⟨none, some (<- wholeTag h s first.start), some first.start, first.stop⟩
  | _ => pure ⟨none, none, none, first.start⟩

/-- Remember what an anchor stands for. -/
def define (anchor : Option String) (node : Option Node) : Parsing Unit :=
  match anchor with
  | none => pure ()
  | some a => modify fun s => { s with anchors := (a, node) :: s.anchors }

/-- The tag that a text suggests. -/
def impliedTag (text : String) : Parsing String := do
  pure (plainTag (<- isModern) text)

/-- The tag of a scalar. -/
def scalarTag (given : Option String) (plain : Bool) (text : String) : Parsing String :=
  match given with
  | none => if plain then impliedTag text else pure (coreTag "str")
  | some "!" => impliedTag text
  | some t => pure t

/-- The tag of a collection. -/
def collectionTag (given : Option String) (name : String) : String :=
  match given with
  | none => coreTag name
  | some "!" => coreTag name
  | some t => t

mutual

/-- A node.  Block collections may begin where `block`, and without indentation where `bare`. -/
def node (block bare : Bool) : Nat -> Parsing Node
  | 0 => fail
  | fuel + 1 => do
      let first <- peek
      match first.sign with
      | .alias name => do
          skip
          match (<- get).anchors.lookup name with
          | some (some n) => pure n
          | _ => failAt first.start
      | _ => do
          let given <- properties
          let t <- peek
          let start := given.start.getD t.start
          define given.anchor none
          let made <- match t.sign with
            | .scalar text plain => do
                skip
                pure (Node.scalar (<- scalarTag given.tag plain text) text start)
            | .flowSequence => do
                skip
                pure (Node.sequence (collectionTag given.tag "seq") (<- flowItems true fuel) start)
            | .flowMapping => do
                skip
                pure (Node.mapping (collectionTag given.tag "map") (<- flowEntries true fuel) start)
            | sign =>
                if bare && sign == .entry then do
                  pure (Node.sequence (collectionTag given.tag "seq") (<- bareItems fuel) start)
                else if block && sign == .blockSequence then do
                  skip
                  pure (Node.sequence (collectionTag given.tag "seq") (<- blockItems fuel) start)
                else if block && sign == .blockMapping then do
                  skip
                  pure (Node.mapping (collectionTag given.tag "map") (<- blockEntries fuel) start)
                else if given.start.isSome then
                  let tag := match given.tag with
                    | none => coreTag "null"
                    | some "!" => coreTag "null"
                    | some tag => tag
                  pure (Node.scalar tag "" start)
                else failAt t.start
          define given.anchor (some made)
          pure made

/-- A block node, or nothing when one of some signs comes next. -/
def blockNodeUnless (ends : List Sign) (bare : Bool) (m : Mark) : Nat -> Parsing Node
  | 0 => fail
  | fuel + 1 => do
      if <- isNext ends then pure (emptyNode m) else node true bare fuel

/-- A flow node, or nothing when one of some signs comes next. -/
def flowNodeUnless (ends : List Sign) (m : Mark) : Nat -> Parsing Node
  | 0 => fail
  | fuel + 1 => do
      if <- isNext ends then pure (emptyNode m) else node false false fuel

/-- The items of a block sequence, up to its end. -/
def blockItems : Nat -> Parsing (List Node)
  | 0 => fail
  | fuel + 1 => do
      let t <- peek
      match t.sign with
      | .entry => do
          skip
          let n <- blockNodeUnless [.entry, .blockEnd] false t.stop fuel
          pure (n :: (<- blockItems fuel))
      | .blockEnd => do
          skip
          pure []
      | _ => fail

/-- The items of a block sequence that is not indented. -/
def bareItems : Nat -> Parsing (List Node)
  | 0 => fail
  | fuel + 1 => do
      let t <- peek
      if t.sign == .entry then do
        skip
        let n <- blockNodeUnless [.entry, .key, .value, .blockEnd] false t.stop fuel
        pure (n :: (<- bareItems fuel))
      else pure []

/-- The entries of a block mapping, up to its end. -/
def blockEntries : Nat -> Parsing (List (Node × Node))
  | 0 => fail
  | fuel + 1 => do
      let t <- peek
      match t.sign with
      | .key => do
          skip
          let k <- blockNodeUnless [.key, .value, .blockEnd] true t.stop fuel
          let v <- blockValue fuel
          pure ((k, v) :: (<- blockEntries fuel))
      | .value =>
          if <- isModern then do
            let v <- blockValue fuel
            pure ((emptyNode t.start, v) :: (<- blockEntries fuel))
          else fail
      | .blockEnd => do
          skip
          pure []
      | _ => fail

/-- The value of an entry of a block mapping. -/
def blockValue : Nat -> Parsing Node
  | 0 => fail
  | fuel + 1 => do
      let t <- peek
      if t.sign == .value then do
        skip
        blockNodeUnless [.key, .value, .blockEnd] true t.stop fuel
      else pure (emptyNode t.start)

/-- The items of a flow sequence, up to its end; a key makes a mapping of one entry. -/
def flowItems (first : Bool) : Nat -> Parsing (List Node)
  | 0 => fail
  | fuel + 1 => do
      if <- isNext [.flowSequenceEnd] then do
        skip
        pure []
      else do
        if !first then
          if <- isNext [.flowEntry] then skip else fail
        let t <- peek
        match t.sign with
        | .flowSequenceEnd => do
            skip
            pure []
        | .key => do
            skip
            let k <- flowNodeUnless [.value, .flowEntry, .flowSequenceEnd] t.stop fuel
            let v <- flowValue .flowSequenceEnd fuel
            let n := Node.mapping (coreTag "map") [(k, v)] t.start
            pure (n :: (<- flowItems false fuel))
        | _ => do
            let n <- node false false fuel
            pure (n :: (<- flowItems false fuel))

/-- The value of an entry of a flow collection that a sign closes. -/
def flowValue (closing : Sign) : Nat -> Parsing Node
  | 0 => fail
  | fuel + 1 => do
      let t <- peek
      if t.sign == .value then do
        skip
        flowNodeUnless [.flowEntry, closing] t.stop fuel
      else pure (emptyNode t.start)

/-- The entries of a flow mapping, up to its end. -/
def flowEntries (first : Bool) : Nat -> Parsing (List (Node × Node))
  | 0 => fail
  | fuel + 1 => do
      if <- isNext [.flowMappingEnd] then do
        skip
        pure []
      else do
        if !first then
          if <- isNext [.flowEntry] then skip else fail
        let t <- peek
        match t.sign with
        | .flowMappingEnd => do
            skip
            pure []
        | .key => do
            skip
            let k <- flowNodeUnless [.value, .flowEntry, .flowMappingEnd] t.stop fuel
            let v <- flowValue .flowMappingEnd fuel
            pure ((k, v) :: (<- flowEntries false fuel))
        | sign =>
            if sign == .value && (<- isModern) then do
              let v <- flowValue .flowMappingEnd fuel
              pure ((emptyNode t.stop, v) :: (<- flowEntries false fuel))
            else do
              let k <- node false false fuel
              let m := (<- peek).start
              pure ((k, emptyNode m) :: (<- flowEntries false fuel))

end

/-- The short names for tags that every document has. -/
def defaultHandles : List (String × String) :=
  [("!", "!"), ("!!", coreStem)]

/-- Read the directives of a document. -/
def directives : Nat -> Option (Nat × Nat) -> List (String × String) ->
    Parsing (Option (Nat × Nat) × List (String × String))
  | 0, version, handles => pure (version, handles)
  | fuel + 1, version, handles => do
      let t <- peek
      match t.sign with
      | .version major minor =>
          if version.isSome || major != 1 then failAt t.start
          else do
            skip
            directives fuel (some (major, minor)) handles
      | .handle name stem =>
          if (handles.lookup name).isSome then failAt t.start
          else do
            skip
            directives fuel version (handles ++ [(name, stem)])
      | .directive => do
          skip
          directives fuel version handles
      | _ => pure (version, handles)

/-- Pass over marks of document ends. -/
def skipEnds : Nat -> Parsing Unit
  | 0 => pure ()
  | fuel + 1 => do
      if <- isNext [.documentEnd] then do
        skip
        skipEnds fuel
      else pure ()

/-- Fail for a version of the language that no rules are known for. -/
def checkVersion (version : Option (Nat × Nat)) : Parsing Unit :=
  match version with
  | some (major, minor) =>
      if minor == 1 || minor == 2 then pure ()
      else
        let reason := s!"version minor part can only be 2 or 1, got ({major}, {minor})"
        throw (.value (.other "AssertionError" reason))
  | none => pure ()

/-- The mark that a document begins with, when there is one. -/
def documentStart (fuel : Nat) : Parsing (Option Mark) := do
  skipEnds fuel
  if <- isNext [.streamEnd] then pure none
  else do
    let (version, handles) <- directives fuel none []
    checkVersion version
    let t <- peek
    if t.sign != .documentStart then fail
    else do
      skip
      modify fun s => { s with
        handles := handles ++ defaultHandles, version := version.getD Scanner.defaultVersion }
      pure (some t.start)

/-- Fail at the beginning of another document, when there is one. -/
def noDocument (fuel : Nat) : Parsing Unit := do
  match <- documentStart fuel with
  | some m => failAt m
  | none => pure ()

/-- Whether the next token belongs to a directive. -/
def isDirective (t : Token) : Bool :=
  match t.sign with
  | .version .. => true
  | .handle .. => true
  | .directive => true
  | _ => false

/-- What is left after a document; a second document is a fault. -/
def documentEnd (fuel : Nat) : Parsing Unit := do
  let t <- peek
  if t.sign == .documentEnd then do
    skip
    let after <- peek
    if after.sign != .streamEnd && after.start.line == t.stop.line then fail
    else do
      if isDirective after || [.documentStart, .streamEnd].contains after.sign then
        noDocument fuel
      else fail
  else noDocument fuel

/-- The only document, when there is one. -/
def document (fuel : Nat) : Parsing (Option Node) := do
  let t <- peek
  if t.sign == .streamEnd then pure none
  else if isDirective t || t.sign == .documentStart then do
    match <- documentStart fuel with
    | none => pure none
    | some _ => do
        let next <- peek
        let ends := [Sign.documentStart, .documentEnd, .streamEnd].contains next.sign
        let made <-
          if isDirective next || ends then pure (emptyNode next.start)
          else node true false fuel
        documentEnd fuel
        pure (some made)
  else do
    let made <- node true false fuel
    documentEnd fuel
    pure (some made)

end Parsing

/-- The only document of a text, when there is one, and the version it is in. -/
def readNode (cs : List Char) : Except ReadFault (Option Node × (Nat × Nat)) :=
  if !cs.all isAllowed then .error (.malformed none)
  else
    let (ts, fault) := tokens cs
    let s : Parser := ⟨ts, fault.getD (.malformed none), [], Parsing.defaultHandles, Scanner.defaultVersion⟩
    match Parsing.document (4 * ts.length + 16) s with
    | .ok n s => .ok (n, s.version)
    | .error e _ => .error e

end Yaml

end Workflow
