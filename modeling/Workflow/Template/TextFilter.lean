import Workflow.Json.Writing
import Workflow.Template.Arguments
import Workflow.Template.Formatting
import Workflow.Template.Layout
import Workflow.Template.Pretty

/-!
# Filters of texts

Filters that make a text of their subject, or compute from its text.
-/

namespace Workflow

namespace Template

/-- Apply a function to the characters of a value's text; markup stays markup. -/
def mapText (f : List Char -> List Char) (v : Value) : Outcome Value := do
  .ok (likeText v (String.ofList (f (<- plainText v).toList)))

/-! ## Addresses and sizes -/

/-- Whether a byte stands for itself in an address. -/
def isAddressByte (query : Bool) (b : UInt8) : Bool :=
  let c := Char.ofNat b.toNat
  b.toNat < 128 && (c.isAlphanum || ['_', '.', '-', '~'].contains c || (!query && c == '/'))

/-- Bytes as part of an address. -/
def addressBytes (query : Bool) (data : List UInt8) : String :=
  String.join (data.map fun b =>
    if isAddressByte query b then (Char.ofNat b.toNat).toString
    else if query && b == 32 then "+"
    else "%" ++ String.ofList ((Text.hexPadded 2 b.toNat).map Char.toUpper))

/-- A text as part of an address. -/
def addressText (query : Bool) (s : String) : String :=
  addressBytes query (Text.encodeUtf8 s)

/-- A number of bytes in the largest unit that leaves at least one. -/
def sizeText (binary : Bool) (bytes : Float) : Outcome String :=
  let base : Nat := if binary then 1024 else 1000
  let units := if binary then ["KiB", "MiB", "GiB", "TiB", "PiB", "EiB", "ZiB", "YiB"]
    else ["kB", "MB", "GB", "TB", "PB", "EB", "ZB", "YB"]
  let written (i : Nat) (name : String) : Outcome String := do
    let share := (Float.ofNat base * bytes) / Float.ofNat (Nat.pow base (i + 2))
    let number <- Value.format (.float share) ".1f"
    .ok s!"{number} {name}"
  if bytes == 1.0 then .ok "1 Byte"
  else if bytes < Float.ofNat base then do
    .ok s!"{(<- Value.intOfFloat bytes).text} Bytes"
  else
    match units.zipIdx.find? fun (_, i) => bytes < Float.ofNat (Nat.pow base (i + 2)) with
    | some (name, i) => written i name
    | none => written (units.length - 1) (units.getLastD "")

/-! ## Application -/

/-- An argument that is an integer. -/
def intArgument (v : Value) : Outcome Int :=
  Value.indexArgument v

/-- Characters cut from both ends: a given set, or white space. -/
def trimText (chars : Value) (cs : List Char) : Outcome (List Char) :=
  match chars with
  | .null => .ok (Text.trim Text.isBlank cs)
  | v =>
      match v.asText? with
      | some set => .ok (Text.trim (fun c => set.toList.contains c) cs)
      | none => .error (.badArgument "strip arg must be None or str")

/-- A value as part of an address: bytes as they are, all else by its text. -/
def addressValue (query : Bool) (v : Value) : Outcome String :=
  match v with
  | .bytes data => .ok (addressBytes query data)
  | v => do .ok (addressText query (<- plainText v))

/-- A key and a value of an address. -/
def addressPair (k v : Value) : Outcome String := do
  let key <- addressValue true k
  let value <- addressValue true v
  .ok (key ++ "=" ++ value)

/-- A value taken apart into a key and a value. -/
def pairOf (v : Value) : Outcome (Value × Value) := do
  Value.presentUse v
  match v.items with
  | .error _ => .error (.badArgument s!"cannot unpack non-iterable {v.plainKind} object")
  | .ok [x, y] => .ok (x, y)
  | .ok xs =>
      let n := xs.length
      .error (.badValue (if n < 2 then s!"not enough values to unpack (expected 2, got {n})"
        else "too many values to unpack (expected 2)"))

/-- A text, a mapping or pairs as part of an address. -/
def urlEncoded (v : Value) : Outcome String := do
  Value.presentUse v
  match v.bare, v.items with
  | .str s, _ => .ok (addressText false s)
  | .markup s, _ => .ok (addressText false s)
  | .dict entries, _ => do
      .ok ("&".intercalate (<- entries.mapM fun (k, w) => addressPair k w))
  | _, .ok xs => do
      let pairs <- xs.mapM pairOf
      .ok ("&".intercalate (<- pairs.mapM fun (k, w) => addressPair k w))
  | _, .error _ => do .ok (addressText false (<- plainText v))

/-- Read an integer, through a decimal number if need be, or give a default. -/
def lenientInt (v default base : Value) : Outcome Value := do
  Value.presentUse v
  let direct : Outcome Value :=
    if v.asText?.isSome then Value.convert "int" ⟨[v, base], []⟩ else Value.toInt v
  let recoverable (f : Fault) : Bool := f.name == "TypeError" || f.name == "ValueError"
  match direct with
  | .ok n => .ok n
  | .error f =>
      if !recoverable f then .error f
      else
        match Value.toFloat v >>= Value.toInt with
        | .ok n => .ok n
        | .error g =>
            if recoverable g || g.name == "OverflowError" then .ok default else .error g

/-- Read a double, or give a default. -/
def lenientFloat (v default : Value) : Outcome Value := do
  Value.presentUse v
  match Value.toFloat v with
  | .ok x => .ok x
  | .error f => if f.name == "TypeError" || f.name == "ValueError" then .ok default else .error f

/-- Blanks, as many as a value says, or the text that it is. -/
def blanksOf (v : Value) : Outcome String :=
  match v.asText? with
  | some s => .ok s
  | none =>
      match v.asInt? with
      | some n => .ok (String.ofList (List.replicate n.toNat ' '))
      | none => .error (.badArgument s!"can't multiply sequence by non-int of type '{v.kind}'")

/-- The style of JSON with an indentation given by a value. -/
def indentStyle (style : Json.Style) (indent : Value) : Outcome Json.Style :=
  match indent with
  | .null => .ok style
  | v => do .ok { style with indent := some (<- blanksOf v) }

/-- JSON text that is safe inside markup. -/
def markupJson (v indent : Value) : Outcome Value := do
  let style <- indentStyle { Json.lineStyle with sorted := true, lenient := false } indent
  let s <- Json.write style v
  .ok (.markup (String.join (s.toList.map fun c =>
    if c == '<' then "\\u003c"
    else if c == '>' then "\\u003e"
    else if c == '&' then "\\u0026"
    else if c == '\'' then "\\u0027"
    else c.toString)))

/-- Replace occurrences of a text, the first ones or all. -/
def replaceText (s old new : List Char) (count : Value) : Outcome (List Char) := do
  match count with
  | .null => .ok (Text.replaceAll old new s none)
  | v => do
      let n <- intArgument v
      .ok (Text.replaceAll old new s (if n < 0 then none else some n.toNat))

/-- Replace occurrences of a text where values are escaped: in markup, what is put in is escaped. -/
def replaceEscaping (v old new count : Value) : Outcome Value := do
  let isMarkup (w : Value) : Bool := match w with
    | .markup _ => true
    | _ => false
  let s <- if isMarkup old || (isMarkup new && !isMarkup v) then do
      pure (Value.markup (<- escaped v))
    else do pure (likeText v (<- plainText v))
  let new <- if isMarkup s then escaped new else plainText new
  let r <- replaceText s.text.toList (<- plainText old).toList new.toList count
  .ok (likeText s (String.ofList r))

/-- White space, or a character that no name of an attribute of a tag may hold. -/
def endsAttribute (c : Char) : Bool :=
  [' ', '\t', '\n', '\x0b', '\x0c', '\r', '/', '>', '='].contains c

/-- The attributes of a tag. -/
def tagAttributes (v : Value) : Outcome (List String) := do
  Value.presentUse v
  match v.entries? with
  | none => .error (.noAttribute v.plainKind "items")
  | some entries =>
      let shown := entries.filter fun (_, w) => match w with
        | .null => false
        | .undefined .. => false
        | _ => true
      shown.mapM fun (k, w) => do
        match k.asText? with
        | none =>
            .error (.badArgument s!"expected string or bytes-like object, got '{k.plainKind}'")
        | some key =>
            if key.toList.any endsAttribute then
              let quoted := Text.quoted key
              .error (.badValue s!"Invalid character in attribute name: {quoted}")
            else do
              let name <- escaped k
              let text <- escaped w
              .ok (name ++ "=\"" ++ text ++ "\"")

/-- A text whose lines after the first one are moved to the right. -/
def indentText (v width : Value) (first blank : Bool) : Outcome Value := do
  let step <- blanksOf width
  Value.presentUse v
  match v.bare with
  | .str s => .ok (.str (String.ofList (indented step.toList first blank s.toList)))
  | .markup s => .ok (.markup (String.ofList (indented step.toList first blank s.toList)))
  | .list _ => .error (.noAttribute "list" "splitlines")
  | w =>
      match Value.operate .add w (.str "\n") with
      | .error (.unsupported _ left right) => .error (.unsupported "+=" left right)
      | .error f => .error f
      | .ok _ => .error (.noAttribute w.plainKind "splitlines")

/-- A text cut to a length, with an end put after the cut. -/
def truncateText (v length killWords stop leeway : Value) : Outcome Value := do
  let size : Value := .int (<- stop.length : Nat)
  if !(<- Value.related .ge length size) then
    .error (.other "AssertionError" s!"expected length >= {size.text}, got {length.text}")
  if !(<- Value.related .ge leeway (.int 0)) then
    .error (.other "AssertionError" s!"expected leeway >= 0, got {leeway.text}")
  let n : Value := .int (<- v.length : Nat)
  if (<- Value.related .le n (<- Value.operate .add length leeway)) then .ok v
  else
    let front <- Value.slice v ⟨.null, <- Value.operate .sub length size, .null⟩
    if killWords.truthy then Value.operate .add front stop
    else
      match front.asText? with
      | some s =>
          Value.operate .add (likeText front (String.ofList (beforeLastBlank s.toList))) stop
      | none => .error (.noAttribute v.plainKind "rsplit")

/-- The lines of a text wrapped at a width. -/
def wrapText (v width breakLong join hyphens : Value) : Outcome Value := do
  Value.presentUse v
  match v.asText? with
  | none => .error (.noAttribute v.plainKind "splitlines")
  | some s =>
      let lines := Text.splitLines Text.isLineEnd false s.toList
      let join <- match join with
        | .null => pure "\n"
        | w =>
            match w.asText? with
            | some t => pure t
            | none => .error (.noAttribute w.plainKind "join")
      let wrapped <- lines.mapM fun l => do
        if (<- Value.related .le width (.int 0)) then
          .error (.badValue s!"invalid width {width.literal} (must be > 0)")
        let size <- intArgument width
        let chunks := if hyphens.truthy then wrapChunks l.length [] l else plainChunks l.length l
        pure (join.intercalate ((wrapLines size.toNat breakLong.truthy hyphens.truthy
          (2 * l.length + 2) true chunks).map String.ofList))
      .ok (.str (join.intercalate wrapped))

/-- Apply a filter of texts; `none` when the name is not one. -/
def textFilter? (escaping : Bool) (name : String) (v : Value) (a : Value.Arguments) :
    Option (Outcome Value) :=
  let sig (name : String) (required optional : List String) : Signature :=
    ⟨name, 1, required, optional⟩
  let none1 (f : Outcome Value) (name : String) : Outcome Value := do
    let _ <- (sig name [] []).bind a
    f
  match name with
  | "capitalize" => some (none1 (mapText Text.capitalize v) "do_capitalize")
  | "lower" => some (none1 (mapText Text.lower v) "do_lower")
  | "upper" => some (none1 (mapText Text.upper v) "do_upper")
  | "title" => some (none1 (do
      let cs := (<- plainText v).toList
      .ok (.str (String.ofList (titled cs.length cs)))) "do_title")
  | "string" => some (none1 (do .ok (likeText v (<- plainText v))) "soft_str")
  | "safe" => some (none1 (do .ok (.markup (<- plainText v))) "do_mark_safe")
  | "e" => some (none1 (do .ok (.markup (<- escaped v))) "escape")
  | "escape" => some (none1 (do .ok (.markup (<- escaped v))) "escape")
  | "forceescape" =>
      some (none1 (do .ok (.markup (Value.escapeMarkup (<- plainText v)))) "do_forceescape")
  | "striptags" =>
      some (none1 (do .ok (.str (String.ofList (withoutTags (<- plainText v).toList))))
        "do_striptags")
  | "wordcount" =>
      some (none1 (do .ok (.int (countWords false (<- plainText v).toList : Nat))) "do_wordcount")
  | "abs" => some (none1 (do
      Value.presentUse v
      Value.absolute v) "abs")
  | "center" => some do
      let b <- (sig "do_center" [] ["width"]).bind a
      let width <- Value.sizeArgument (argument b 0 (.int 80))
      mapText (centred width) v
  | "trim" => some do
      let b <- (sig "do_trim" [] ["chars"]).bind a
      let s <- plainText v
      .ok (likeText v (String.ofList (<- trimText (argument b 0 .null) s.toList)))
  | "indent" => some do
      let b <- (sig "do_indent" [] ["width", "first", "blank"]).bind a
      indentText v (argument b 0 (.int 4)) (argument b 1 (.bool false)).truthy
        (argument b 2 (.bool false)).truthy
  | "truncate" => some do
      let b <- Signature.bind ⟨"do_truncate", 2, [], ["length", "killwords", "end", "leeway"]⟩ a
      let leeway := match argument b 3 .null with
        | .null => .int 5
        | w => w
      truncateText v (argument b 0 (.int 255)) (argument b 1 (.bool false))
        (argument b 2 (.str "...")) leeway
  | "wordwrap" => some do
      let b <- Signature.bind ⟨"do_wordwrap", 2, [],
        ["width", "break_long_words", "wrapstring", "break_on_hyphens"]⟩ a
      wrapText v (argument b 0 (.int 79)) (argument b 1 (.bool true)) (argument b 2 .null)
        (argument b 3 (.bool true))
  | "replace" => some do
      let b <- Signature.bind ⟨"do_replace", 2, ["old", "new"], ["count"]⟩ a
      let old := argument b 0 .null
      let new := argument b 1 .null
      let count := argument b 2 .null
      if escaping then replaceEscaping v old new count
      else
        let s <- plainText v
        let r <- replaceText s.toList (<- plainText old).toList (<- plainText new).toList count
        .ok (.str (String.ofList r))
  | "format" => some do
      if !a.positional.isEmpty && !a.named.isEmpty then
        .error (.other "FilterArgumentError"
          "can't handle positional and keyword arguments at the same time")
      else
        let s <- plainText v
        let given := if a.named.isEmpty then Value.tuple a.positional else Value.record a.named
        Value.operate .rem (likeText v s) given
  | "filesizeformat" => some do
      let b <- (sig "do_filesizeformat" [] ["binary"]).bind a
      Value.presentUse v
      match <- Value.toFloat v with
      | .float x => do .ok (.str (<- sizeText (argument b 0 (.bool false)).truthy x))
      | w => .ok w
  | "int" => some do
      let b <- (sig "do_int" [] ["default", "base"]).bind a
      lenientInt v (argument b 0 (.int 0)) (argument b 1 (.int 10))
  | "float" => some do
      let b <- (sig "do_float" [] ["default"]).bind a
      lenientFloat v (argument b 0 (.float 0.0))
  | "json" => some do
      let b <- (sig "to_json" [] ["indent"]).bind a
      .ok (.str (<- Json.write (<- indentStyle Json.lineStyle (argument b 0 .null)) v))
  | "tojson" => some do
      let b <- Signature.bind ⟨"do_tojson", 2, [], ["indent"]⟩ a
      markupJson v (argument b 0 .null)
  | "pprint" => some (none1 (do .ok (.str (<- Pretty.text v))) "do_pprint")
  | "urlencode" => some do
      let _ <- (sig "do_urlencode" [] []).bind a
      .ok (.str (<- urlEncoded v))
  | "xmlattr" => some do
      let b <- Signature.bind ⟨"do_xmlattr", 2, [], ["autospace"]⟩ a
      let parts <- tagAttributes v
      let s := " ".intercalate parts
      let s := if (argument b 0 (.bool true)).truthy && !s.isEmpty then " " ++ s else s
      .ok (if escaping then .markup s else .str s)
  | _ => none

end Template

end Workflow
