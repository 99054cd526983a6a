import Workflow.Value.Method.Bytes

/-!
# Methods of texts
-/

namespace Workflow

namespace Value

/-- The names of the methods of texts. -/
def textMethods : List String :=
  ["capitalize", "casefold", "center", "count", "encode", "endswith", "expandtabs", "find",
    "format", "format_map", "index", "isalnum", "isalpha", "isascii", "isdecimal", "isdigit",
    "isidentifier", "islower", "isnumeric", "isprintable", "isspace", "istitle", "isupper",
    "join", "ljust", "lower", "lstrip", "maketrans", "partition", "removeprefix",
    "removesuffix", "replace", "rfind", "rindex", "rjust", "rpartition", "rsplit", "rstrip",
    "split", "splitlines", "startswith", "strip", "swapcase", "title", "translate", "upper",
    "zfill"]

/-- The value of a list of characters. -/
def ofChars (cs : List Char) : Value :=
  str (String.ofList cs)

/-- A part of a text, and the place where it starts. -/
structure Window where
  chars : List Char
  start : Nat
  /-- Whether the start is within the text. -/
  inside : Bool

/-- The part of a text between two optional positions. -/
def Window.of (cs : List Char) (bounds : List Value) : Outcome Window := do
  let start <- sliceBound (bounds.getD 0 null)
  let stop <- sliceBound (bounds.getD 1 null)
  let n : Int := cs.length
  let place (k : Int) : Nat := (if k < 0 then max 0 (k + n) else k).toNat
  let low := (start.map place).getD 0
  let high := min ((stop.map place).getD cs.length) cs.length
  .ok ⟨(cs.take high).drop low, low, low ≤ high⟩

/-- The arguments of a search: the text to look for and an optional window. -/
def searchArguments (name : String) (cs : List Char) (a : Arguments) :
    Outcome (List Char × Window) := do
  a.positionalOnly s!"str.{name}"
  match a.positional with
  | [] => .error (.badArgument s!"{name}() takes at least 1 argument (0 given)")
  | x :: rest =>
      if 2 < rest.length then
        .error (.badArgument s!"{name}() takes at most 3 arguments ({rest.length + 1} given)")
      else do
        let window <- Window.of cs rest
        let needle <- textArgument x
        .ok (needle.toList, window)

/-- The place of the first or last occurrence of a text. -/
def searchText (name : String) (last : Bool) (cs : List Char) (a : Arguments) :
    Outcome (Option Nat) := do
  let (needle, window) <- searchArguments name cs a
  if !window.inside then .ok none
  else
    let place :=
      if last then Text.findLast? needle window.chars else Text.findFrom? needle 0 window.chars
    .ok (place.map (· + window.start))

/-- Whether a window of the text begins or ends with one of some texts. -/
def affixTest (name : String) (test : List Char -> List Char -> Bool) (cs : List Char)
    (a : Arguments) : Outcome Value := do
  a.positionalOnly s!"str.{name}"
  match a.positional with
  | [] => .error (.badArgument s!"{name}() takes at least 1 argument (0 given)")
  | x :: rest => do
      a.atMost name 3
      let window <- Window.of cs rest
      let holds (s : String) : Bool := window.inside && test s.toList window.chars
      let rec anyOf : List Value -> Outcome Value
        | [] => .ok (bool false)
        | o :: more =>
            match o.asText? with
            | some s => if holds s then .ok (bool true) else anyOf more
            | none =>
                .error (.badArgument s!"tuple for {name} must only contain str, not {o.kind}")
      match x with
      | tuple options => anyOf options
      | x =>
          match x.asText? with
          | some s => .ok (bool (holds s))
          | none =>
              .error (.badArgument
                s!"{name} first arg must be str or a tuple of str, not {x.kind}")

/-- A width and an optional fill character. -/
def padArguments (name : String) (a : Arguments) : Outcome (Nat × Char) := do
  let args <- a.between s!"str.{name}" name 1 2
  let width <- sizeArgument (args.getD 0 null)
  let fill <- match args[1]? with
    | none => pure ' '
    | some v =>
        match v.asText?.map String.toList with
        | some [c] => pure c
        | some _ =>
            Except.error
              (Fault.badArgument "The fill character must be exactly one character long")
        | none =>
            Except.error (Fault.badArgument
              s!"The fill character must be a unicode character, not {v.kind}")
  if maxMade < width then .error outOfMemory else .ok (width.toNat, fill)

/-- The characters to trim: white space when no text is given. -/
def trimClass (name : String) (a : Arguments) : Outcome (Char -> Bool) := do
  let args <- a.between s!"str.{name}" name 0 1
  match args with
  | [] => .ok Text.isBlank
  | null :: _ => .ok Text.isBlank
  | v :: _ =>
      match v.asText? with
      | some s => .ok fun c => s.toList.contains c
      | none => .error (.badArgument s!"{name} arg must be None or str")

/-- A limit on a number of steps: a negative number is no limit. -/
def stepLimit (v : Option Value) (default : Nat) : Outcome Nat := do
  match v with
  | none => .ok default
  | some v => do
      let n <- sizeArgument v
      .ok (if n < 0 then default else n.toNat)

/-- Split a text at a separator or at white space, from the front or from the back. -/
def splitText (name : String) (fromEnd : Bool) (cs : List Char) (a : Arguments) :
    Outcome Value := do
  a.atMost name 2
  a.onlyNamed name ["sep", "maxsplit"]
  let limit <- stepLimit (a.at? 1 "maxsplit") (cs.length + 1)
  let finish (pieces : List (List Char)) : Value :=
    list (if fromEnd then (pieces.map List.reverse).reverse.map ofChars else pieces.map ofChars)
  let source := if fromEnd then cs.reverse else cs
  match (a.at? 0 "sep").getD null with
  | null => .ok (finish (Text.splitWords Text.isBlank limit source))
  | v =>
      match v.asText? with
      | none => .error (.badArgument s!"must be str or None, not {v.kind}")
      | some s =>
          if s.isEmpty then .error (.badValue "empty separator")
          else
            let separator := if fromEnd then s.toList.reverse else s.toList
            .ok (finish (Text.splitAll separator limit source))

/-- The texts of the items to join; every item must be a text. -/
def joinItems (place : Nat) : List Value -> Outcome (List String)
  | [] => .ok []
  | x :: rest =>
      match x.asText? with
      | some s => do .ok (s :: (<- joinItems (place + 1) rest))
      | none =>
          .error (.badArgument
            s!"sequence item {place}: expected str instance, {x.kind} found")

/-- Whether a text has a character of a class and none outside it. -/
def allOf (p : Char -> Bool) (cs : List Char) : Bool :=
  !cs.isEmpty && cs.all p

/-- Whether a text has cased letters, and all of them have the given case. -/
def allCased (wanted other : Char -> Bool) (cs : List Char) : Bool :=
  cs.any wanted && !cs.any other

/-- Whether capital letters stand exactly at the heads of words. -/
def isTitleText (cs : List Char) : Bool :=
  go false false cs
where
  /-- `inWord` says whether the last character was cased, `seen` whether any was. -/
  go (inWord seen : Bool) : List Char -> Bool
    | [] => seen
    | c :: rest =>
        if Text.isLower c then inWord && go true true rest
        else if Text.isUpper c || Text.isCased c then !inWord && go true true rest
        else go false seen rest

/-- Replace characters by the entries of a mapping from code points. -/
def translateChar (table : Value) (c : Char) : Outcome (List Char) :=
  match subscript table (int c.toNat) with
  | .error f => if f.isMissing then .ok [c] else .error f
  | .ok null => .ok []
  | .ok v =>
      match v.asText?, v.asInt? with
      | some s, _ => .ok s.toList
      | none, some n =>
          if 0 ≤ n && n < 0x110000 then .ok [Char.ofNat n.toNat]
          else .error (.badValue "character mapping must be in range(0x110000)")
      | none, none => .error (.badArgument "character mapping must return integer, None or str")

/-- A key of a mapping of characters: a code point, or a text of one character. -/
def mappingKey (k : Value) : Outcome Value :=
  match k.asText? with
  | some s =>
      match s.toList with
      | [c] => .ok (int c.toNat)
      | _ => .error (.badValue "string keys in translate table must be of length 1")
  | none =>
      if k.asInt?.isSome then .ok k
      else .error (.badArgument "keys in translate table must be strings or integers")

/-- A mapping from code points: of a dictionary, or of two texts and the characters to drop. -/
def characterMapping (a : Arguments) : Outcome Value := do
  let args <- a.between "str.maketrans" "maketrans" 1 3
  let textual (place : Nat) (v : Value) : Outcome (List Char) :=
    match v.asText? with
    | some s => .ok s.toList
    | none =>
        .error (.badArgument s!"maketrans() argument {place} must be str, not {argumentKind v}")
  match args with
  | [] => .ok null
  | [v] =>
      match v.bare with
      | dict entries => do
          let entries <- entries.mapM fun (k, w) => do pure ((<- mappingKey k), w)
          .ok (dict (entries.foldl (fun acc (k, w) => insert acc k w) []))
      | _ =>
          .error (.badArgument "if you give only one argument to maketrans it must be a dict")
  | x :: y :: rest => do
      let images <- textual 2 y
      let gone <- (rest.head?).mapM (textual 3)
      match x.asText? with
      | none =>
          .error (.badArgument
            "first maketrans argument must be a string if there is a second argument")
      | some s =>
          if s.length != images.length then
            .error (.badValue "the first two maketrans arguments must have equal length")
          else
            let put (acc : List (Value × Value)) (c : Char) (w : Value) : List (Value × Value) :=
              insert acc (int c.toNat) w
            let entries := (s.toList.zip images).foldl
              (fun acc (c, d) => put acc c (int d.toNat)) []
            .ok (dict ((gone.getD []).foldl (fun acc c => put acc c null) entries))

/-- The bytes of a text in a named encoding. -/
def encodeText (s encoding recovery : String) : Outcome Value := do
  let codec <- codecNamed encoding
  match codec.encode recovery s with
  | .ok data => .ok (bytes data)
  | .error f => .error (codecFault f)

/-- Call a method of a text; `none` when texts have no method of that name. -/
def callText? (s : String) (name : String) (a : Arguments) : Option (Outcome Value) :=
  let cs := s.toList
  let full := s!"str.{name}"
  let change (f : List Char -> List Char) : Outcome Value := do
    a.nothing full
    .ok (ofChars (f cs))
  let test (p : List Char -> Bool) : Outcome Value := do
    a.nothing full
    .ok (bool (p cs))
  let cut (p : String -> Option (List Char × List Char × List Char))
      (otherwise : Value) : Outcome Value := do
    let separator <- textArgument (<- a.one full)
    if separator.isEmpty then .error (.badValue "empty separator")
    else
      match p separator with
      | some (x, y, z) => .ok (tuple [ofChars x, ofChars y, ofChars z])
      | none => .ok otherwise
  let affix (cutOff : List Char -> List Char) : Outcome Value := do
    let v <- a.one full
    match v.asText? with
    | some t => .ok (ofChars (cutOff t.toList))
    | none => .error (.badArgument s!"{name}() argument must be str, not {argumentKind v}")
  let place (r : Option Nat) : Outcome Value :=
    match r with
    | some i => .ok (int i)
    | none => .error (.badValue "substring not found")
  match name with
  | "lower" => some (change Text.lower)
  | "upper" => some (change Text.upper)
  | "title" => some (change Text.title)
  | "capitalize" => some (change Text.capitalize)
  | "swapcase" => some (change Text.swapCase)
  | "casefold" => some (change Text.foldCase)
  | "isalnum" => some (test (allOf Text.isAlphanumeric))
  | "isalpha" => some (test (allOf Text.isLetter))
  | "isdecimal" => some (test (allOf Text.isDecimal))
  | "isdigit" => some (test (allOf Text.isDigitSign))
  | "isnumeric" => some (test (allOf Text.isNumeric))
  | "isspace" => some (test (allOf Text.isBlank))
  | "isascii" => some (test fun cs => cs.all fun c => c.toNat < 128)
  | "isprintable" => some (test fun cs => cs.all Text.isPrintable)
  | "isidentifier" => some (test Text.isIdentifier)
  | "islower" => some (test (allCased Text.isLower fun c => Text.isCased c && !Text.isLower c))
  | "isupper" => some (test (allCased Text.isUpper fun c => Text.isCased c && !Text.isUpper c))
  | "istitle" => some (test isTitleText)
  | "strip" => some do .ok (ofChars (Text.trim (<- trimClass "strip" a) cs))
  | "lstrip" => some do .ok (ofChars (Text.trimStart (<- trimClass "lstrip" a) cs))
  | "rstrip" => some do .ok (ofChars (Text.trimEnd (<- trimClass "rstrip" a) cs))
  | "split" => some (splitText "split" false cs a)
  | "rsplit" => some (splitText "rsplit" true cs a)
  | "splitlines" => some do
      a.atMost "splitlines" 1
      a.onlyNamed "splitlines" ["keepends"]
      let keep <- flagArgument ((a.at? 0 "keepends").getD (bool false))
      .ok (list ((Text.splitLines Text.isLineEnd keep cs).map ofChars))
  | "join" => some do
      let v <- a.one full
      match v.items with
      | .error _ => .error (.badArgument "can only join an iterable")
      | .ok xs => .ok (str (s.intercalate (<- joinItems 0 xs)))
  | "replace" => some do
      let args <- a.between full "replace" 2 3
      let part (i : Nat) : Outcome (List Char) :=
        match (args.getD i null).asText? with
        | some t => .ok t.toList
        | none =>
            .error (.badArgument
              s!"replace() argument {i + 1} must be str, not {argumentKind (args.getD i null)}")
      let old <- part 0
      let new <- part 1
      let limit <- match args[2]? with
        | none => pure none
        | some v => do
            let n <- sizeArgument v
            pure (if n < 0 then none else some n.toNat)
      .ok (ofChars (Text.replaceAll old new cs limit))
  | "startswith" => some (affixTest name (fun t w => t.isPrefixOf w) cs a)
  | "endswith" => some (affixTest name (fun t w => t.isSuffixOf w) cs a)
  | "find" => some do
      match (<- searchText name false cs a) with
      | some i => .ok (int i)
      | none => .ok (int (-1))
  | "rfind" => some do
      match (<- searchText name true cs a) with
      | some i => .ok (int i)
      | none => .ok (int (-1))
  | "index" => some do place (<- searchText name false cs a)
  | "rindex" => some do place (<- searchText name true cs a)
  | "count" => some do
      let (needle, window) <- searchArguments name cs a
      .ok (int (if window.inside then Text.countOccurrences needle window.chars else 0))
  | "center" => some do
      let (width, fill) <- padArguments name a
      let missing := width - cs.length
      let before := missing / 2 + (if missing % 2 = 1 && width % 2 = 1 then 1 else 0)
      .ok (ofChars (List.replicate before fill ++ cs ++ List.replicate (missing - before) fill))
  | "ljust" => some do
      let (width, fill) <- padArguments name a
      .ok (ofChars (padField fill .left width [] cs))
  | "rjust" => some do
      let (width, fill) <- padArguments name a
      .ok (ofChars (padField fill .right width [] cs))
  | "zfill" => some do
      let width <- sizeArgument (<- a.one full)
      if maxMade < width then .error outOfMemory
      else .ok (ofChars (zeroFill width.toNat cs))
  | "expandtabs" => some do
      a.atMost "expandtabs" 1
      a.onlyNamed "expandtabs" ["tabsize"]
      let width <- smallArgument ((a.at? 0 "tabsize").getD (int 8))
      .ok (ofChars (Text.expandTabs width.toNat 0 cs))
  | "partition" => some <|
      cut (fun t => (Text.findFrom? t.toList 0 cs).map fun i =>
        (cs.take i, t.toList, cs.drop (i + t.length)))
        (tuple [str s, str "", str ""])
  | "rpartition" => some <|
      cut (fun t => (Text.findLast? t.toList cs).map fun i =>
        (cs.take i, t.toList, cs.drop (i + t.length)))
        (tuple [str "", str "", str s])
  | "removeprefix" => some (affix fun t => if t.isPrefixOf cs then cs.drop t.length else cs)
  | "removesuffix" => some <|
      affix fun t =>
        if !t.isEmpty && t.isSuffixOf cs then cs.take (cs.length - t.length) else cs
  | "encode" => some do
      a.atMost "encode" 2
      a.onlyNamed "encode" ["encoding", "errors"]
      let encoding <- namingArgument "encode" "encoding" ((a.at? 0 "encoding").getD (str "utf-8"))
      let recovery <- namingArgument "encode" "errors" ((a.at? 1 "errors").getD (str "strict"))
      encodeText s encoding recovery
  | "translate" => some do
      let table <- a.one full
      let parts <- cs.mapM (translateChar table)
      .ok (ofChars parts.flatten)
  | "maketrans" => some (characterMapping a)
  | _ => none

end Value

end Workflow
