import Workflow.Template.TextFilter

/-!
# Links in texts

The filter that finds addresses among the words of a text and makes links of them.  A
word is looked at without the brackets and stops around it.
-/

namespace Workflow

namespace Template

namespace Link

/-! ## Addresses of pages -/

/-- A Latin letter in either case, and the letters that have one as their other case. -/
def isLatin (c : Char) : Bool :=
  c.isAlpha || ['İ', 'ı', 'ſ', 'K'].contains c

/-- A character of a label of a host name. -/
def isLabelPart (c : Char) : Bool :=
  Text.isWordChar c || c == '%' || c == '-'

/-- A character that ends the host of an address. -/
def endsHost (c : Char) : Bool :=
  [':', '/', '?', '#'].contains c

/-- A text without its case, for the comparison of names made of Latin letters. -/
def folded (cs : List Char) : String :=
  String.ofList (Text.lower cs)

/-- The rest of a text after one of some beginnings, in whatever case. -/
def afterAny? (beginnings : List String) (cs : List Char) : Option (List Char) :=
  (beginnings.find? fun b => folded (cs.take b.length) == b).map fun b => cs.drop b.length

/-- The last label of a host name that follows a scheme. -/
def isTopLabel (cs : List Char) : Bool :=
  (2 ≤ cs.length && cs.length ≤ 63 && cs.all isLatin)
    || (match afterAny? ["xn--"] cs with
        | some rest =>
            2 ≤ rest.length && rest.length ≤ 59
              && rest.all fun c => Text.isWordChar c || c == '%'
        | none => false)

/-- A host name that follows a scheme. -/
def isHostName (cs : List Char) : Bool :=
  match (Text.splitAll ['.'] cs.length cs).reverse with
  | [] => false
  | top :: labels => isTopLabel top && labels.all fun l => !l.isEmpty && l.all isLabelPart

/-- A host name that is known as one without a scheme, by its last label. -/
def isCommonHost (cs : List Char) : Bool :=
  match (Text.splitAll ['.'] cs.length cs).reverse with
  | top :: label :: labels =>
      ["com", "net", "int", "edu", "gov", "org", "info", "mil"].contains (folded top)
        && (label :: labels).all fun l =>
          2 ≤ l.length && l.length ≤ 63 && l.all isLabelPart
  | _ => false

/-- Four numbers of up to three digits between dots. -/
def isDottedHost (cs : List Char) : Bool :=
  let parts := Text.splitAll ['.'] cs.length cs
  parts.length == 4
    && parts.all fun p => 1 ≤ p.length && p.length ≤ 3 && p.all Text.isDecimal

/-- The number of groups of at most four digits that parts between colons make. -/
def groupCount : List (List Char) -> Nat
  | [] => 0
  | [p] => (p.length + 3) / 4
  | p :: rest => max 1 ((p.length + 3) / 4) + groupCount rest

/-- Groups of hexadecimal digits between colons: two that end with one, and up to six more. -/
def isColonHost (cs : List Char) : Bool :=
  let isDigit (c : Char) : Bool :=
    Text.isDecimal c || ('a' ≤ c && c ≤ 'f') || ('A' ≤ c && c ≤ 'F')
  let parts := Text.splitAll [':'] cs.length cs
  match parts with
  | p :: q :: r :: rest =>
      parts.all (·.all isDigit) && p.length ≤ 4 && q.length ≤ 4 && groupCount (r :: rest) ≤ 6
  | _ => false

/-- What may follow a host: a port, then a path, a query or a fragment. -/
def isAfterHost (cs : List Char) : Bool :=
  let rest := match cs with
    | ':' :: digits =>
        let port := digits.takeWhile Text.isDecimal
        if 1 ≤ port.length && port.length ≤ 5 then digits.drop port.length else cs
    | cs => cs
  match rest with
  | [] => true
  | c :: _ => c != ':' && endsHost c

/-- A host of a kind at the head of a text, and nothing behind it that does not belong to it. -/
def isAddressOf (isHost : List Char -> Bool) (cs : List Char) : Bool :=
  let host := cs.takeWhile fun c => !endsHost c
  isHost host && isAfterHost (cs.drop host.length)

/-- A host in square brackets, and nothing behind it that does not belong to it. -/
def isBracketed (cs : List Char) : Bool :=
  match cs with
  | '[' :: rest =>
      let host := rest.takeWhile fun c => c != ']'
      match rest.drop host.length with
      | ']' :: more => isColonHost host && isAfterHost more
      | _ => false
  | _ => false

/-- A word that is the address of a page. -/
def isPage (cs : List Char) : Bool :=
  let schemed := match afterAny? ["http://", "https://"] cs with
    | some rest =>
        isAddressOf isHostName rest || isAddressOf isDottedHost rest || isBracketed rest
    | none => false
  let named := match afterAny? ["www."] cs with
    | some rest => isAddressOf isHostName rest
    | none => false
  schemed || named || isAddressOf isCommonHost cs

/-! ## Addresses of mail -/

/-- A word that is the address of a mailbox: the part after the last `@` has a dot inside. -/
def isMailbox (cs : List Char) : Bool :=
  match Text.findLast? ['@'] cs with
  | none => false
  | some place =>
      let host := cs.drop (place + 1)
      match Text.findLast? ['.'] host with
      | none => false
      | some dot =>
          let top := host.drop (dot + 1)
          let first := match host with
            | c :: _ => Text.isWordChar c
            | [] => false
          0 < place && first && !top.isEmpty && top.all Text.isWordChar
            && (host.take dot).all fun c => Text.isWordChar c || c == '.' || c == '-'

/-! ## Words -/

/-- Take the marks at the head of a text off; the second part is the rest.  The fuel is the length. -/
def leading (marks : List (List Char)) : Nat -> List Char -> List Char × List Char
  | 0, cs => ([], cs)
  | fuel + 1, cs =>
      match marks.find? (·.isPrefixOf cs) with
      | some m =>
          let (front, rest) := leading marks fuel (cs.drop m.length)
          (m ++ front, rest)
      | none => ([], cs)

/-- Take the marks at the end of a text off; the second part is those marks. -/
def trailing (marks : List (List Char)) (cs : List Char) : List Char × List Char :=
  let (back, rest) := leading (marks.map (·.reverse)) cs.length cs.reverse
  (rest.reverse, back.reverse)

/-- Move closing brackets from what follows a word into it until it closes what it opens. -/
def balance (opening closing : List Char) : Nat -> List Char × List Char -> List Char × List Char
  | 0, parts => parts
  | moves + 1, (middle, tail) =>
      match Text.findFrom? closing 0 tail with
      | some place =>
          let n := place + closing.length
          balance opening closing moves (middle ++ tail.take n, tail.drop n)
      | none => (middle, tail)

/-- A word without its surroundings, and what stands behind it, brackets being kept in pairs. -/
def balanced (middle tail : List Char) : List Char × List Char :=
  [("(", ")"), ("<", ">"), ("&lt;", "&gt;")].foldl (fun (middle, tail) (opening, closing) =>
    let opened := Text.countOccurrences opening.toList middle
    if opened ≤ Text.countOccurrences closing.toList middle then (middle, tail)
    else balance opening.toList closing.toList opened (middle, tail)) (middle, tail)

/-- How links are written. -/
structure Style where
  /-- The length from which the text of a link is cut. -/
  limit : Value
  /-- The attributes of a link to a page. -/
  attributes : String
  /-- Beginnings of further words that are links. -/
  schemes : List String

/-- The text of a link to a page, cut to a length. -/
def shown (style : Style) (cs : List Char) : Outcome String := do
  match style.limit with
  | .null => .ok (String.ofList cs)
  | limit =>
      if <- Value.related .gt (.int cs.length) limit then
        let n <- intArgument limit
        let kept := if n < 0 then cs.length - n.natAbs else n.toNat
        .ok (String.ofList (cs.take kept) ++ "...")
      else .ok (String.ofList cs)

/-- A word made a link, if it is one. -/
def linked (style : Style) (cs : List Char) : Outcome String := do
  let word := String.ofList cs
  let anchor (target attributes text : String) : String :=
    "<a href=\"" ++ target ++ "\"" ++ attributes ++ ">" ++ text ++ "</a>"
  let mailed := cs.drop "mailto:".length
  if isPage cs then
    let hasScheme := "https://".toList.isPrefixOf cs || "http://".toList.isPrefixOf cs
    let target := if hasScheme then word else "https://" ++ word
    .ok (anchor target style.attributes (<- shown style cs))
  else if "mailto:".toList.isPrefixOf cs && isMailbox mailed then
    .ok (anchor word "" (String.ofList mailed))
  else if !"www.".toList.isPrefixOf cs && cs.head? != some '@' && !cs.contains ':'
      && isMailbox cs then
    .ok (anchor ("mailto:" ++ word) "" word)
  else
    .ok (style.schemes.foldl (fun text scheme =>
      if text != scheme && scheme.toList.isPrefixOf text.toList then
        anchor text style.attributes text
      else text) word)

/-- A word with links for what stands in it. -/
def word (style : Style) (cs : List Char) : Outcome String := do
  let (head, rest) := leading ["(".toList, "<".toList, "&lt;".toList] cs.length cs
  let (middle, tail) := trailing [")".toList, ">".toList, ".".toList, ",".toList,
    "\n".toList, "&gt;".toList] rest
  let (middle, tail) := balanced middle tail
  .ok (String.ofList head ++ (<- linked style middle) ++ String.ofList tail)

/-- The words of a text and the white space between them.  The fuel is the length. -/
def pieces : Nat -> List Char -> List (List Char)
  | 0, _ => []
  | _ + 1, [] => []
  | fuel + 1, c :: rest =>
      let same (d : Char) : Bool := Text.isBlank d == Text.isBlank c
      let run := rest.takeWhile same
      (c :: run) :: pieces fuel (rest.drop run.length)

/-- A text with links for the addresses in it. -/
def text (style : Style) (cs : List Char) : Outcome String := do
  let parts <- (pieces cs.length cs).mapM (word style)
  .ok (String.join parts)

/-! ## The filter -/

/-- A beginning of words that can be a scheme: a name, a colon and up to two slashes. -/
def isScheme (cs : List Char) : Bool :=
  let name := cs.takeWhile fun c =>
    Text.isWordChar c || c == '.' || c == '+' || c == '-'
  let rest := String.ofList (cs.drop name.length)
  2 ≤ name.length && [":", ":/", "://"].contains rest

/-- The schemes an argument lists. -/
def schemes (v : Value) : Outcome (List String) := do
  match v with
  | .null => .ok []
  | v =>
      (<- v.items).mapM fun item => do
        match item.asText? with
        | some s =>
            if isScheme s.toList then .ok s
            else
              let quoted := item.literal
              .error (.other "FilterArgumentError"
                s!"{quoted} is not a valid URI scheme prefix.")
        | none =>
            .error (.badArgument s!"expected string or bytes-like object, got '{item.kind}'")

/-- The words of a text in order, each once. -/
def wordSet (words : List String) : List String :=
  (words.foldl (fun kept w => if kept.contains w then kept else kept ++ [w]) []).mergeSort
    fun a b => decide (a ≤ b)

/-- The attributes of links: how the page relates to its target, and where it opens. -/
def attributes (nofollow : Bool) (rel target : Value) : Outcome String := do
  let given <-
    if rel.truthy then
      match rel.asText? with
      | some s => pure ((Text.words s.toList).map String.ofList)
      | none => .error (.noAttribute rel.kind "split")
    else pure []
  let parts := wordSet (given ++ (if nofollow then ["nofollow"] else []) ++ ["noopener"])
  let relText := " rel=\"" ++ Value.escapeMarkup (" ".intercalate parts) ++ "\""
  if target.truthy then
    .ok (relText ++ " target=\"" ++ (<- escaped target) ++ "\"")
  else .ok relText

end Link

/-- Apply the filter that makes links. -/
def linkFilter (escaping : Bool) (v : Value) (a : Value.Arguments) : Outcome Value := do
  let b <- Signature.bind ⟨"do_urlize", 2, [],
    ["trim_url_limit", "nofollow", "target", "rel", "extra_schemes"]⟩ a
  let attributes <- Link.attributes (argument b 1 (.bool false)).truthy (argument b 3 .null)
    (argument b 2 .null)
  let schemes <- Link.schemes (argument b 4 .null)
  let s <- Link.text ⟨argument b 0 .null, attributes, schemes⟩ (<- escaped v).toList
  .ok (if escaping then .markup s else .str s)

end Template

end Workflow
