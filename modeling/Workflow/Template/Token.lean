import Workflow.Expr.Token

/-!
# Tokens of templates

A template is text with three kinds of insertions between marks: printed expressions,
statements and comments.  A dash beside a mark takes away the white space on its outer
side.  Each token knows the line it begins on.
-/

namespace Workflow

namespace Template

/-- What a token is. -/
inductive TokenKind where
  /-- Text that is output as it is. -/
  | data (s : String)
  | printBegin
  | printEnd
  | blockBegin
  | blockEnd
  | name (s : String)
  | text (s : String)
  | number (v : Value)
  | mark (s : String)
  /-- Characters that form no token. -/
  | fault
  | eof
  deriving Repr, Inhabited

/-- A token and its line. -/
structure Token where
  kind : TokenKind
  line : Nat
  deriving Repr, Inhabited

/-- The marks of expressions, the longer ones first. -/
def marks : List String :=
  ["**", "//", "==", "!=", ">=", "<=", "+", "-", "/", "*", "%", "~", "[", "]", "(", ")", "\x7b",
    "\x7d", ">", "<", "=", ".", ":", "|", ",", ";"]

/-- Write every line end as a single line feed. -/
def unifyLineEnds : List Char -> List Char
  | [] => []
  | '\r' :: '\n' :: rest => '\n' :: unifyLineEnds rest
  | '\r' :: rest => '\n' :: unifyLineEnds rest
  | c :: rest => c :: unifyLineEnds rest

/-- The number of line ends. -/
def countLines (cs : List Char) : Nat :=
  cs.count '\n'

/-- Drop white space from the front, counting its line ends. -/
def dropBlank (cs : List Char) : List Char :=
  cs.dropWhile Text.isBlank

/-- What follows a given text at the front. -/
def after? (s : String) (cs : List Char) : Option (List Char) :=
  if s.toList.isPrefixOf cs then some (cs.drop s.length) else none

/-! ## Numbers and words -/

/-- Digits that single underscores may part, and what follows. -/
def spanGrouped (cs : List Char) : List Char × List Char :=
  match cs with
  | [] => ([], [])
  | c :: rest =>
      if Text.isDecimal c then go [c] rest else ([], cs)
where
  /-- `taken` holds the digits already taken, last first. -/
  go (taken : List Char) : List Char -> List Char × List Char
    | '_' :: d :: rest =>
        if Text.isDecimal d then go (d :: taken) rest else (taken.reverse, '_' :: d :: rest)
    | d :: rest =>
        if Text.isDecimal d then go (d :: taken) rest else (taken.reverse, d :: rest)
    | [] => (taken.reverse, [])

/-- An exponent at the front: its sign, its digits and what follows. -/
def spanExponent? (cs : List Char) : Option (Bool × List Char × List Char) :=
  match cs with
  | e :: rest =>
      if e == 'e' || e == 'E' then
        let (negative, rest) := Number.splitSign rest
        match spanGrouped rest with
        | ([], _) => none
        | (digits, rest) => some (negative, digits, rest)
      else none
  | [] => none

/-- A number with a fraction or an exponent at the front, and what follows. -/
def readFraction? (cs : List Char) : Option (Value × List Char) :=
  let value (whole fraction : List Char) (exponent : Int) : Value :=
    .float (Number.DecimalParts.toFloat false ⟨whole, fraction, exponent⟩)
  let exponentOf (negative : Bool) (digits : List Char) : Int :=
    let n : Int := (Number.digitsValue? 10 digits).getD 0
    if negative then -n else n
  match spanGrouped cs with
  | ([], _) => none
  | (whole, '.' :: rest) =>
      match spanGrouped rest with
      | ([], _) => none
      | (fraction, rest) =>
          match spanExponent? rest with
          | some (negative, digits, rest) =>
              some (value whole fraction (exponentOf negative digits), rest)
          | none => some (value whole fraction 0, rest)
  | (whole, rest) =>
      (spanExponent? rest).map fun (negative, digits, rest) =>
        (value whole [] (exponentOf negative digits), rest)

/-- Digits of a class, each of which an underscore may precede, and what follows. -/
def spanMarked (isDigit : Char -> Bool) : List Char -> List Char × List Char
  | '_' :: d :: rest =>
      if isDigit d then
        let (ds, rest) := spanMarked isDigit rest
        (d :: ds, rest)
      else ([], '_' :: d :: rest)
  | d :: rest =>
      if isDigit d then
        let (ds, rest) := spanMarked isDigit rest
        (d :: ds, rest)
      else ([], d :: rest)
  | [] => ([], [])

/-- The value of digits in a base. -/
def digitsInt (base : Nat) (ds : List Char) : Value :=
  .int ((Number.digitsValue? base ds).getD 0 : Nat)

/-- Whether a character is a hexadecimal digit. -/
def isHexDigit (c : Char) : Bool :=
  c.toNat < 128 && (c.isDigit || ('a' ≤ c.toLower && c.toLower ≤ 'f'))

/-- A whole number at the front, and what follows. -/
def readWhole? (cs : List Char) : Option (Value × List Char) :=
  let based (base : Nat) (isDigit : Char -> Bool) (rest : List Char) :
      Option (Value × List Char) :=
    match spanMarked isDigit rest with
    | ([], _) => none
    | (ds, rest) => some (digitsInt base ds, rest)
  match cs with
  | '0' :: m :: rest =>
      let marked :=
        if m == 'b' || m == 'B' then based 2 (fun c => c == '0' || c == '1') rest
        else if m == 'o' || m == 'O' then based 8 Reading.isOctal rest
        else if m == 'x' || m == 'X' then based 16 isHexDigit rest
        else none
      marked.orElse fun _ =>
        let (_, rest) := spanMarked (· == '0') (m :: rest)
        some (.int 0, rest)
  | ['0'] => some (.int 0, [])
  | c :: rest =>
      if '1' ≤ c && c ≤ '9' then
        let (ds, rest) := spanMarked Text.isDecimal rest
        some (digitsInt 10 (c :: ds), rest)
      else none
  | [] => none

/-- A character that can stand in a word. -/
def isWordChar (c : Char) : Bool :=
  c == '_' || Text.isLetter c || Text.isNumeric c || Text.isIdentifierPart c

/-- The body of a quoted text at the front, as it is written, and what follows. -/
def spanQuoted (quote : Char) : List Char -> Option (List Char × List Char)
  | [] => none
  | '\\' :: c :: rest => (spanQuoted quote rest).map fun (b, r) => ('\\' :: c :: b, r)
  | c :: rest =>
      if c == quote then some ([], rest)
      else if c == '\\' then none
      else (spanQuoted quote rest).map fun (b, r) => (c :: b, r)

/-! ## The marks around insertions -/

/-- The end of an insertion: its closing mark with what it takes along, and what follows. -/
def insertionEnd? (closing : String) (plus : Bool) (cs : List Char) : Option (List Char) :=
  match after? ("-" ++ closing) cs with
  | some rest => some (dropBlank rest)
  | none =>
      if plus then (after? ("+" ++ closing) cs).orElse fun _ => after? closing cs
      else after? closing cs

/-- The end of a statement or of a comment. -/
def statementEnd? (cs : List Char) : Option (List Char) :=
  insertionEnd? "%\x7d" true cs

/-- The sign after an opening mark, and what follows. -/
def takeSign : List Char -> Option Char × List Char
  | '-' :: rest => (some '-', rest)
  | '+' :: rest => (some '+', rest)
  | cs => (none, cs)

/-- A statement of one word, such as the mark of raw text: its sign and what follows it. -/
def wordStatement? (word : String) (plus : Bool) (cs : List Char) :
    Option (Option Char × List Char) := do
  let rest <- after? "\x7b%" cs
  let (sign, rest) := takeSign rest
  let rest <- after? word (dropBlank rest)
  let rest <- insertionEnd? "%\x7d" plus (dropBlank rest)
  some (sign, rest)

/-- What an insertion is, by its opening mark. -/
inductive Opening where
  | raw
  | block
  | comment
  | print
  deriving Repr, DecidableEq

/-- The opening mark at the front: what it opens, its sign and what follows. -/
def opening? (cs : List Char) : Option (Opening × Option Char × List Char) :=
  match cs with
  | '\x7b' :: '%' :: rest =>
      match wordStatement? "raw" false cs with
      | some (sign, rest) => some (.raw, sign, rest)
      | none =>
          let (sign, rest) := takeSign rest
          some (.block, sign, rest)
  | '\x7b' :: '#' :: rest =>
      let (sign, rest) := takeSign rest
      some (.comment, sign, rest)
  | '\x7b' :: '\x7b' :: rest =>
      let (sign, rest) := takeSign rest
      some (.print, sign, rest)
  | _ => none

/-- Text up to the first place where `stop?` finds something, what it finds, if anything. -/
def spanUntil (stop? : List Char -> Option α) : List Char -> List Char × Option α
  | [] => ([], stop? [])
  | c :: rest =>
      match stop? (c :: rest) with
      | some a => ([], some a)
      | none =>
          let (text, found) := spanUntil stop? rest
          (c :: text, found)

/-- Text before a mark, without the white space at its end when the mark has a dash. -/
def trimmed (sign : Option Char) (text : List Char) : List Char :=
  if sign == some '-' then Text.trimEnd Text.isBlank text else text

/-- The token of some text, unless it is empty. -/
def dataToken (line : Nat) (text : List Char) : List Token :=
  if text.isEmpty then [] else [⟨.data (String.ofList text), line⟩]

/-! ## The lexer -/

/-- Where the lexer stands: in plain text, in raw text, or in an insertion. -/
inductive Mode where
  | text
  | raw
  | comment
  /-- Between the marks of a printed expression or a statement, under open brackets. -/
  | inside (print : Bool) (brackets : List Char)

/-- The bracket that closes an open one. -/
def closing? : Char -> Option Char
  | '(' => some ')'
  | '[' => some ']'
  | '\x7b' => some '\x7d'
  | _ => none

/-- The open brackets after a mark; `none` when it closes a bracket that is not open. -/
def bracketsAfter? (brackets : List Char) (m : String) : Option (List Char) :=
  match m.toList with
  | [c] =>
      match closing? c with
      | some close => some (close :: brackets)
      | none =>
          if c == ')' || c == ']' || c == '\x7d' then
            match brackets with
            | top :: rest => if top == c then some rest else none
            | [] => none
          else some brackets
  | _ => some brackets

/-- The token at the front of an insertion that is not white space, and what follows. -/
def readToken? (afterDot : Bool) (cs : List Char) : Option (TokenKind × List Char) :=
  let fraction := if afterDot then none else readFraction? cs
  match fraction with
  | some (v, rest) => some (.number v, rest)
  | none =>
      match readWhole? cs with
      | some (v, rest) => some (.number v, rest)
      | none =>
          match cs with
          | [] => none
          | c :: rest =>
              if isWordChar c then
                let word := cs.takeWhile isWordChar
                if Text.isIdentifier word then
                  some (.name (String.ofList word), cs.dropWhile isWordChar)
                else none
              else if c == '\'' || c == '"' then do
                let (body, rest) <- spanQuoted c rest
                let value <- Reading.unescape false body.length body
                some (.text (String.ofList value), rest)
              else do
                let m <- marks.find? fun m => m.toList.isPrefixOf cs
                some (.mark m, cs.drop m.length)

/-- The tokens of the characters that are left.  The fuel bounds the number of steps. -/
def tokensFrom : Nat -> Mode -> Bool -> Nat -> List Char -> List Token
  | 0, _, _, line, _ => [⟨.fault, line⟩]
  | fuel + 1, .text, _, line, cs =>
      match spanUntil opening? cs with
      | (text, none) => dataToken line text
      | (text, some (kind, sign, rest)) =>
          let front := dataToken line (trimmed sign text)
          let line := line + countLines text
          let gone := cs.take (cs.length - rest.length)
          let after := line + countLines (gone.drop text.length)
          match kind with
          | .raw => front ++ tokensFrom fuel .raw false after rest
          | .comment => front ++ tokensFrom fuel .comment false line rest
          | .block =>
              front ++ ⟨.blockBegin, line⟩ :: tokensFrom fuel (.inside false []) false line rest
          | .print =>
              front ++ ⟨.printBegin, line⟩ :: tokensFrom fuel (.inside true []) false line rest
  | fuel + 1, .raw, _, line, cs =>
      match spanUntil (wordStatement? "endraw" true) cs with
      | (text, some (sign, rest)) =>
          let gone := cs.take (cs.length - rest.length)
          dataToken line (trimmed sign text)
            ++ tokensFrom fuel .text false (line + countLines gone) rest
      | (_, none) => if cs.isEmpty then [] else [⟨.fault, line⟩]
  | fuel + 1, .comment, _, line, cs =>
      match spanUntil (insertionEnd? "#\x7d" true) cs with
      | (_, some rest) =>
          let gone := cs.take (cs.length - rest.length)
          tokensFrom fuel .text false (line + countLines gone) rest
      | (_, none) => if cs.isEmpty then [] else [⟨.fault, line⟩]
  | fuel + 1, .inside print brackets, afterDot, line, cs =>
      let ended : Option (List Char) :=
        if !brackets.isEmpty then none
        else if print then insertionEnd? "\x7d\x7d" false cs
        else statementEnd? cs
      match ended with
      | some rest =>
          let gone := cs.take (cs.length - rest.length)
          ⟨if print then .printEnd else .blockEnd, line⟩
            :: tokensFrom fuel .text false (line + countLines gone) rest
      | none =>
          match cs with
          | [] => []
          | c :: rest =>
              if Text.isBlank c then
                tokensFrom fuel (.inside print brackets) false
                  (line + if c == '\n' then 1 else 0) rest
              else
                match readToken? afterDot cs with
                | none => [⟨.fault, line⟩]
                | some (kind, rest) =>
                    let gone := cs.take (cs.length - rest.length)
                    let line' := line + countLines gone
                    match kind with
                    | .mark m =>
                        match bracketsAfter? brackets m with
                        | none => [⟨.fault, line⟩]
                        | some brackets =>
                            ⟨kind, line⟩
                              :: tokensFrom fuel (.inside print brackets) (m == ".") line' rest
                    | kind => ⟨kind, line⟩ :: tokensFrom fuel (.inside print brackets) false line' rest

/-- The tokens of a template; the last one marks its end, on the line of the one before. -/
def tokens (source : String) : List Token :=
  let cs := unifyLineEnds source.toList
  let ts := tokensFrom (2 * cs.length + 2) .text false 1 cs
  let line := (ts.getLast?.map Token.line).getD 1
  ts ++ [⟨.eof, line⟩]

end Template

end Workflow
