import Workflow.Value.Arguments
import Workflow.Text.Codec
import Workflow.Text.Search

/-!
# Methods of byte sequences

A byte sequence is searched and cut like a text whose characters are its bytes; only
the bytes of ASCII are letters, digits and white space.
-/

namespace Workflow

namespace Value

/-- The names of the methods of byte sequences. -/
def bytesMethods : List String :=
  ["capitalize", "center", "count", "decode", "endswith", "expandtabs", "find", "fromhex", "hex",
    "index", "isalnum", "isalpha", "isascii", "isdigit", "islower", "isspace", "istitle",
    "isupper", "join", "ljust", "lower", "lstrip", "maketrans", "partition", "removeprefix",
    "removesuffix", "replace", "rfind", "rindex", "rjust", "rpartition", "rsplit", "rstrip",
    "split", "splitlines", "startswith", "strip", "swapcase", "title", "translate", "upper",
    "zfill"]

/-- The fault of a conversion between texts and bytes. -/
def codecFault (f : Text.CodecFault) : Fault :=
  match f with
  | .wrongRecovery => .badArgument f.message
  | f => .other f.name f.message

/-- The encoding of a name. -/
def codecNamed (name : String) : Outcome Text.Codec :=
  match Text.Codec.ofName? name with
  | some codec => .ok codec
  | none => .error (.other "LookupError" s!"unknown encoding: {name}")

/-- The text of some bytes in a named encoding. -/
def decodeBytes (data : List UInt8) (encoding recovery : String) : Outcome Value :=
  if data.isEmpty then .ok (str "")
  else do
    let codec <- codecNamed encoding
    match codec.decode recovery data with
    | .ok cs => .ok (str (String.ofList cs))
    | .error f => .error (codecFault f)

/-- An argument that names an encoding or a way to go on. -/
def namingArgument (full place : String) (v : Value) : Outcome String :=
  match v with
  | str s => .ok s
  | v => .error (.badArgument s!"{full}() argument '{place}' must be str, not {argumentKind v}")

/-- The bytes of a value that is a sequence of them. -/
def bytesArgument (v : Value) : Outcome (List UInt8) :=
  match v with
  | bytes data => .ok data
  | v => .error (.badArgument s!"a bytes-like object is required, not '{v.kind}'")

/-- Bytes as characters of the same numbers. -/
def charsOfBytes (data : List UInt8) : List Char :=
  data.map fun b => Char.ofNat b.toNat

/-- Characters as bytes of the same numbers. -/
def ofByteChars (cs : List Char) : Value :=
  bytes (cs.map fun c => UInt8.ofNat c.toNat)

/-- White space among the bytes. -/
def isByteBlank (c : Char) : Bool :=
  [' ', '\t', '\n', '\r', '\x0b', '\x0c'].contains c

/-- What is looked for among bytes: other bytes, or one byte by its number. -/
def byteNeedle (v : Value) : Outcome (List Char) :=
  match v with
  | bytes data => .ok (charsOfBytes data)
  | v =>
      match v.asInt? with
      | some n =>
          if 0 ≤ n && n < 256 then .ok [Char.ofNat n.toNat]
          else .error (.badValue "byte must be in range(0, 256)")
      | none =>
          .error (.badArgument s!"argument should be integer or bytes-like object, not '{v.kind}'")

/-- A part of some bytes between two optional positions, where it starts, and whether it exists. -/
def byteWindow (cs : List Char) (bounds : List Value) : Outcome (List Char × Nat × Bool) := do
  let start <- sliceBound (bounds.getD 0 null)
  let stop <- sliceBound (bounds.getD 1 null)
  let n : Int := cs.length
  let place (k : Int) : Nat := (if k < 0 then max 0 (k + n) else k).toNat
  let low := (start.map place).getD 0
  let high := min ((stop.map place).getD cs.length) cs.length
  .ok ((cs.take high).drop low, low, low ≤ high)

/-- The arguments of a search among bytes. -/
def byteSearch (name : String) (cs : List Char) (a : Arguments) :
    Outcome (List Char × List Char × Nat × Bool) := do
  a.positionalOnly s!"bytes.{name}"
  match a.positional with
  | [] => .error (.badArgument s!"{name}() takes at least 1 argument (0 given)")
  | x :: rest =>
      if 2 < rest.length then
        .error (.badArgument s!"{name}() takes at most 3 arguments ({rest.length + 1} given)")
      else do
        let window <- byteWindow cs rest
        .ok ((<- byteNeedle x), window)

/-- The place of the first or last occurrence among bytes. -/
def findBytes (name : String) (last : Bool) (cs : List Char) (a : Arguments) :
    Outcome (Option Nat) := do
  let (needle, part, start, inside) <- byteSearch name cs a
  if !inside then .ok none
  else
    let place := if last then Text.findLast? needle part else Text.findFrom? needle 0 part
    .ok (place.map (· + start))

/-- Whether a part of the bytes begins or ends with one of some sequences. -/
def byteAffix (name : String) (test : List Char -> List Char -> Bool) (cs : List Char)
    (a : Arguments) : Outcome Value := do
  a.positionalOnly s!"bytes.{name}"
  match a.positional with
  | [] => .error (.badArgument s!"{name}() takes at least 1 argument (0 given)")
  | x :: rest => do
      let (part, _, inside) <- byteWindow cs rest
      let holds (data : List UInt8) : Bool := inside && test (charsOfBytes data) part
      match x with
      | bytes data => .ok (bool (holds data))
      | tuple options => do
          let all <- options.mapM bytesArgument
          .ok (bool (all.any holds))
      | x =>
          .error (.badArgument
            s!"{name} first arg must be bytes or a tuple of bytes, not {x.kind}")

/-- A width and an optional byte to fill with. -/
def bytePad (name : String) (a : Arguments) : Outcome (Nat × Char) := do
  let args <- a.between s!"bytes.{name}" name 1 2
  let width <- sizeArgument (args.getD 0 null)
  if maxMade < width then .error outOfMemory
  else
    match args[1]? with
    | none => .ok (width.toNat, ' ')
    | some (bytes [b]) => .ok (width.toNat, Char.ofNat b.toNat)
    | some v =>
        .error (.badArgument
          s!"{name}() argument 2 must be a byte string of length 1, not {argumentKind v}")

/-- The bytes to trim: white space when none are given. -/
def byteTrim (name : String) (a : Arguments) : Outcome (Char -> Bool) := do
  match (<- a.between s!"bytes.{name}" name 0 1) with
  | [] => .ok isByteBlank
  | null :: _ => .ok isByteBlank
  | v :: _ => do
      let data <- bytesArgument v
      .ok fun c => (charsOfBytes data).contains c

/-- Cut bytes at a separator or at white space, from the front or from the back. -/
def splitBytes (name : String) (fromEnd : Bool) (cs : List Char) (a : Arguments) :
    Outcome Value := do
  a.atMost name 2
  a.onlyNamed name ["sep", "maxsplit"]
  let limit <- match a.at? 1 "maxsplit" with
    | none => pure (cs.length + 1)
    | some v => do
        let n <- sizeArgument v
        pure (if n < 0 then cs.length + 1 else n.toNat)
  let finish (pieces : List (List Char)) : Value :=
    list (if fromEnd then (pieces.map List.reverse).reverse.map ofByteChars
      else pieces.map ofByteChars)
  let source := if fromEnd then cs.reverse else cs
  match (a.at? 0 "sep").getD null with
  | null => .ok (finish (Text.splitWords isByteBlank limit source))
  | v => do
      let separator := charsOfBytes (<- bytesArgument v)
      if separator.isEmpty then .error (.badValue "empty separator")
      else
        .ok (finish (Text.splitAll (if fromEnd then separator.reverse else separator) limit source))

/-- The bytes of the items to join. -/
def joinBytes (place : Nat) : List Value -> Outcome (List (List Char))
  | [] => .ok []
  | bytes data :: rest => do .ok (charsOfBytes data :: (<- joinBytes (place + 1) rest))
  | x :: _ =>
      .error (.badArgument
        s!"sequence item {place}: expected a bytes-like object, {x.kind} found")

/-- Groups of two digits parted by a mark, counted from the end or from the start. -/
def hexGroups (digits : List (List Char)) (mark : Char) (size : Int) : List Char :=
  let n := size.natAbs
  if n = 0 then digits.flatten
  else
    let shift := if 0 < size then digits.length % n else 0
    let rec write (place : Nat) : List (List Char) -> List Char
      | [] => []
      | d :: rest =>
          (if place != 0 && (place + (n - shift)) % n = 0 then mark :: d else d)
            ++ write (place + 1) rest
    write 0 digits

/-- The digits of bytes in base sixteen, parted by a mark when one is given. -/
def hexText (data : List UInt8) (a : Arguments) : Outcome Value := do
  a.atMost "hex" 2
  a.onlyNamed "hex" ["sep", "bytes_per_sep"]
  let digits := data.map fun b => Text.hexPadded 2 b.toNat
  let size <- (a.at? 1 "bytes_per_sep").mapM smallArgument
  match a.at? 0 "sep" with
  | none => .ok (str (String.ofList digits.flatten))
  | some v => do
      if (<- v.length) != 1 then .error (.badValue "sep must be length 1.")
      else do
        let mark <- match v.bare with
          | str s => pure s.toList
          | bytes data => pure (charsOfBytes data)
          | _ => Except.error (Fault.badArgument "sep must be str or bytes.")
        let c := mark.headD ' '
        if c.toNat < 128 then .ok (str (String.ofList (hexGroups digits c (size.getD 1))))
        else .error (.badValue "sep must be ASCII.")

/-- The value of a digit in base sixteen. -/
def hexDigit? (c : Char) : Option Nat :=
  if c.isDigit then some (c.toNat - 48)
  else if 'a' ≤ c.toLower && c.toLower ≤ 'f' then some (c.toLower.toNat - 87)
  else none

/-- The bytes of pairs of digits in base sixteen; `place` is the place in the whole text. -/
def bytesOfHex (place : Nat) : List Char -> Outcome (List UInt8)
  | [] => .ok []
  | c :: rest =>
      let fail (place : Nat) : Outcome (List UInt8) :=
        .error (.badValue
          s!"non-hexadecimal number found in fromhex() arg at position {place}")
      if isByteBlank c then bytesOfHex (place + 1) rest
      else
        match hexDigit? c, rest with
        | some m, d :: more =>
            match hexDigit? d with
            | some n => do .ok (UInt8.ofNat (m * 16 + n) :: (<- bytesOfHex (place + 2) more))
            | none => fail (place + 1)
        | some _, [] => fail (place + 1)
        | none, _ => fail place

/-- Exchange capital and small letters of ASCII. -/
def swapByteCase (c : Char) : Char :=
  if c.isUpper then c.toLower else if c.isLower then c.toUpper else c

/-- Capitals at the heads of runs of letters. -/
def titleBytes (inWord : Bool) : List Char -> List Char
  | [] => []
  | c :: rest => (if inWord then c.toLower else c.toUpper) :: titleBytes c.isAlpha rest

/-- Whether capital letters stand exactly at the heads of runs of letters. -/
def isTitleBytes (inWord seen : Bool) : List Char -> Bool
  | [] => seen
  | c :: rest =>
      if c.isLower then inWord && isTitleBytes true true rest
      else if c.isUpper then !inWord && isTitleBytes true true rest
      else isTitleBytes false seen rest

/-- The bytes that take the place of all bytes, in their order, when some stand for others. -/
def byteMapping (a : Arguments) : Outcome Value := do
  let args <- a.between "bytes.maketrans" "maketrans" 2 2
  let old <- bytesArgument (args.getD 0 null)
  let new <- bytesArgument (args.getD 1 null)
  if old.length != new.length then
    .error (.badValue "maketrans arguments must have same length")
  else
    let pairs := (old.zip new).reverse
    .ok (bytes ((List.range 256).map fun n =>
      (pairs.lookup (UInt8.ofNat n)).getD (UInt8.ofNat n)))

/-- Drop some bytes, and put those of a table in the place of others. -/
def translateBytes (data : List UInt8) (a : Arguments) : Outcome Value := do
  a.atMost "translate" 2
  match a.positional with
  | [] => .error (.badArgument "translate() takes at least 1 positional argument (0 given)")
  | table :: rest => do
      Arguments.onlyNamed ⟨[], a.named⟩ "translate" ["delete"]
      let table <- if table.isNull then .ok none else (bytesArgument table).map some
      if table.any fun t => t.length != 256 then
        .error (.badValue "translation table must be 256 characters long")
      else do
        let gone <- match (rest.head?).orElse fun _ => a.named.lookup "delete" with
          | some v => bytesArgument v
          | none => .ok []
        let image (b : UInt8) : UInt8 := (table.bind fun t => t[b.toNat]?).getD b
        .ok (bytes ((data.filter fun b => !gone.contains b).map image))

/-- Call a method of a byte sequence. -/
def callBytes? (data : List UInt8) (name : String) (a : Arguments) : Option (Outcome Value) :=
  let cs := charsOfBytes data
  let full := s!"bytes.{name}"
  let change (f : List Char -> List Char) : Outcome Value := do
    a.nothing full
    .ok (ofByteChars (f cs))
  let test (p : List Char -> Bool) : Outcome Value := do
    a.nothing full
    .ok (bool (p cs))
  let all (p : Char -> Bool) : Outcome Value := test fun cs => !cs.isEmpty && cs.all p
  let place (r : Option Nat) : Outcome Value :=
    match r with
    | some i => .ok (int i)
    | none => .error (.badValue "subsection not found")
  let found (r : Option Nat) : Outcome Value :=
    .ok (int ((r.map fun (i : Nat) => (i : Int)).getD (-1)))
  let cut (at? : List Char -> Option Nat) (front : Bool) : Outcome Value := do
    let separator := charsOfBytes (<- bytesArgument (<- a.one full))
    if separator.isEmpty then .error (.badValue "empty separator")
    else
      match at? separator with
      | some i =>
          .ok (tuple [ofByteChars (cs.take i), ofByteChars separator,
            ofByteChars (cs.drop (i + separator.length))])
      | none =>
          .ok (tuple (if front then [bytes data, bytes [], bytes []]
            else [bytes [], bytes [], bytes data]))
  match name with
  | "decode" => some do
      a.atMost "decode" 2
      a.onlyNamed "decode" ["encoding", "errors"]
      let encoding <- namingArgument "decode" "encoding" ((a.at? 0 "encoding").getD (str "utf-8"))
      let recovery <- namingArgument "decode" "errors" ((a.at? 1 "errors").getD (str "strict"))
      decodeBytes data encoding recovery
  | "hex" => some (hexText data a)
  | "maketrans" => some (byteMapping a)
  | "translate" => some (translateBytes data a)
  | "fromhex" => some do
      match (<- a.one full) with
      | str s => .ok (bytes (<- bytesOfHex 0 s.toList))
      | v => .error (.badArgument s!"fromhex() argument must be str, not {argumentKind v}")
  | "lower" => some (change fun cs => cs.map Char.toLower)
  | "upper" => some (change fun cs => cs.map Char.toUpper)
  | "swapcase" => some (change fun cs => cs.map swapByteCase)
  | "title" => some (change (titleBytes false))
  | "capitalize" => some (change fun cs =>
      (cs.take 1).map Char.toUpper ++ (cs.drop 1).map Char.toLower)
  | "isalnum" => some (all Char.isAlphanum)
  | "isalpha" => some (all Char.isAlpha)
  | "isdigit" => some (all Char.isDigit)
  | "isspace" => some (all isByteBlank)
  | "isascii" => some (test fun cs => cs.all fun c => c.toNat < 128)
  | "islower" => some (test fun cs => cs.any Char.isLower && !cs.any Char.isUpper)
  | "isupper" => some (test fun cs => cs.any Char.isUpper && !cs.any Char.isLower)
  | "istitle" => some (test (isTitleBytes false false))
  | "strip" => some do .ok (ofByteChars (Text.trim (<- byteTrim name a) cs))
  | "lstrip" => some do .ok (ofByteChars (Text.trimStart (<- byteTrim name a) cs))
  | "rstrip" => some do .ok (ofByteChars (Text.trimEnd (<- byteTrim name a) cs))
  | "split" => some (splitBytes name false cs a)
  | "rsplit" => some (splitBytes name true cs a)
  | "splitlines" => some do
      a.atMost name 1
      a.onlyNamed name ["keepends"]
      let keep <- flagArgument ((a.at? 0 "keepends").getD (bool false))
      .ok (list ((Text.splitLines Text.isPlainLineEnd keep cs).map ofByteChars))
  | "join" => some do
      match (<- a.one full).items with
      | .error _ => .error (.badArgument "can only join an iterable")
      | .ok xs => .ok (ofByteChars (cs.intercalate (<- joinBytes 0 xs)))
  | "replace" => some do
      let args <- a.between full name 2 3
      let old := charsOfBytes (<- bytesArgument (args.getD 0 null))
      let new := charsOfBytes (<- bytesArgument (args.getD 1 null))
      let limit <- (args[2]?).mapM sizeArgument
      .ok (ofByteChars (Text.replaceAll old new cs
        (limit.bind fun n => if n < 0 then none else some n.toNat)))
  | "startswith" => some (byteAffix name (fun t w => t.isPrefixOf w) cs a)
  | "endswith" => some (byteAffix name (fun t w => t.isSuffixOf w) cs a)
  | "find" => some do found (<- findBytes name false cs a)
  | "rfind" => some do found (<- findBytes name true cs a)
  | "index" => some do place (<- findBytes name false cs a)
  | "rindex" => some do place (<- findBytes name true cs a)
  | "count" => some do
      let (needle, part, _, inside) <- byteSearch name cs a
      .ok (int (if inside then Text.countOccurrences needle part else 0))
  | "center" => some do
      let (width, fill) <- bytePad name a
      let missing := width - cs.length
      let before := missing / 2 + (if missing % 2 = 1 && width % 2 = 1 then 1 else 0)
      .ok (ofByteChars
        (List.replicate before fill ++ cs ++ List.replicate (missing - before) fill))
  | "ljust" => some do
      let (width, fill) <- bytePad name a
      .ok (ofByteChars (padField fill .left width [] cs))
  | "rjust" => some do
      let (width, fill) <- bytePad name a
      .ok (ofByteChars (padField fill .right width [] cs))
  | "zfill" => some do
      let width <- sizeArgument (<- a.one full)
      if maxMade < width then .error outOfMemory
      else .ok (ofByteChars (zeroFill width.toNat cs))
  | "expandtabs" => some do
      a.atMost name 1
      let width <- smallArgument ((a.at? 0 "tabsize").getD (int 8))
      .ok (ofByteChars (Text.expandTabs width.toNat 0 cs))
  | "partition" => some (cut (fun t => Text.findFrom? t 0 cs) true)
  | "rpartition" => some (cut (fun t => Text.findLast? t cs) false)
  | "removeprefix" => some do
      let t := charsOfBytes (<- bytesArgument (<- a.one full))
      .ok (ofByteChars (if t.isPrefixOf cs then cs.drop t.length else cs))
  | "removesuffix" => some do
      let t := charsOfBytes (<- bytesArgument (<- a.one full))
      .ok (ofByteChars
        (if !t.isEmpty && t.isSuffixOf cs then cs.take (cs.length - t.length) else cs))
  | _ => none

end Value

end Workflow
