import Workflow.Number.Reading
import Workflow.Text.Name
import Workflow.Text.Normal
import Workflow.Value.Basic

/-!
# Tokens of expressions

The characters of an expression grouped into names, numbers, texts and marks, with
the line structure made explicit.
-/

namespace Workflow

namespace Reading

/-- A token. -/
inductive Token where
  | name (s : String)
  | number (v : Value)
  | text (s : String)
  | bytes (data : List UInt8)
  /-- A text with embedded expressions, not yet taken apart. -/
  | template (raw : Bool) (body : List Char)
  | mark (s : String)
  | newline
  | indent
  | dedent
  deriving Repr, Inhabited

/-- The words that are not names. -/
def reserved : List String :=
  ["False", "None", "True", "and", "as", "assert", "async", "await", "break", "class",
    "continue", "def", "del", "elif", "else", "except", "finally", "for", "from", "global",
    "if", "import", "in", "is", "lambda", "nonlocal", "not", "or", "pass", "raise", "return",
    "try", "while", "with", "yield"]

/-- The marks, longer ones before their beginnings. -/
def marks : List String :=
  ["**=", "//=", ">>=", "<<=", "...", "!=", "==", "<=", ">=", "->", ":=", "+=", "-=", "*=", "/=",
    "%=", "&=", "|=", "^=", "@=", "**", "//", "<<", ">>", "+", "-", "*", "/", "%", "@", "&", "|",
    "^", "~", "<", ">", "(", ")", "[", "]", "\x7b", "\x7d", ",", ":", ".", ";", "="]

/-! ## Numbers -/

/-- Digits of a base with single underscores between them, split off the front. -/
def spanBase (base : Nat) (cs : List Char) : List Char × List Char :=
  cs.span fun c =>
    c == '_' || (c.toNat < 128 && (Number.digitValue? c).any fun d => decide (d < base))

/-- Whether a number may end before these characters. -/
def numberEnds (cs : List Char) : Bool :=
  match cs with
  | [] => true
  | c :: _ =>
      if Text.isIdentifierPart c then
        ["and", "else", "for", "if", "in", "is", "or", "not"].any fun w => w.toList.isPrefixOf cs
      else true

/-- A number in a base written after its mark. -/
def readBased (base : Nat) (cs : List Char) : Option (Value × List Char) :=
  let (digits, rest) := spanBase base cs
  let digits := match digits with
    | '_' :: more => more
    | ds => ds
  match Number.digitsValue? base digits with
  | some n => if numberEnds rest then some (.int n, rest) else none
  | none => none

/-- The digits of an exponent, when one follows. -/
def readExponent (cs : List Char) : Option (Option (Bool × List Char) × List Char) :=
  match cs with
  | e :: rest =>
      if e == 'e' || e == 'E' then
        let (negative, digits) := Number.splitSign rest
        let (ds, tail) := spanBase 10 digits
        if ds.isEmpty then
          if numberEnds cs then some (none, cs) else none
        else if (Number.digitsValue? 10 ds).isSome then some (some (negative, ds), tail)
        else none
      else some (none, cs)
  | [] => some (none, [])

/-- A decimal number: an integer, a double, or an imaginary number. -/
def readDecimal (cs : List Char) : Option (Value × List Char) := do
  let (whole, rest) := spanBase 10 cs
  let (fraction?, rest) := match rest with
    | '.' :: more =>
        let (f, tail) := spanBase 10 more
        (some f, tail)
    | _ => (none, rest)
  let fraction := fraction?.getD []
  if !(Number.underscoresOk whole && Number.underscoresOk fraction) then none
  else
    let (exponent?, rest) <- readExponent rest
    let imaginary := match rest with
      | c :: _ => c == 'j' || c == 'J'
      | [] => false
    let rest := if imaginary then rest.drop 1 else rest
    if !numberEnds rest then none
    else if fraction?.isNone && exponent?.isNone && !imaginary then
      let n <- Number.digitsValue? 10 whole
      let digits := whole.filter (· != '_')
      if digits.head? == some '0' && n != 0 then none
      else if Number.maxDigits < digits.length then none
      else some (.int n, rest)
    else
      let exponent : Int := match exponent? with
        | none => 0
        | some (negative, ds) =>
            let n : Int := (Number.digitsValue? 10 ds).getD 0
            if negative then -n else n
      let x := Number.DecimalParts.toFloat false ⟨whole, fraction, exponent⟩
      some (if imaginary then .complex 0.0 x else .float x, rest)

/-- A number at the front of some characters. -/
def readNumber (cs : List Char) : Option (Value × List Char) :=
  match cs with
  | '0' :: m :: rest =>
      if m == 'x' || m == 'X' then readBased 16 rest
      else if m == 'o' || m == 'O' then readBased 8 rest
      else if m == 'b' || m == 'B' then readBased 2 rest
      else readDecimal cs
  | _ => readDecimal cs

/-! ## Texts -/

/-- The kind of a text, told by the letters before it. -/
structure TextKind where
  raw : Bool
  bytes : Bool
  template : Bool

/-- The kind of text that some letters announce. -/
def TextKind.ofLetters? (letters : List Char) : Option TextKind :=
  let ls := letters.map Char.toLower
  if ls == [] || ls == ['u'] then some ⟨false, false, false⟩
  else if ls == ['r'] then some ⟨true, false, false⟩
  else if ls == ['b'] then some ⟨false, true, false⟩
  else if ls == ['f'] then some ⟨false, false, true⟩
  else if ls == ['b', 'r'] || ls == ['r', 'b'] then some ⟨true, true, false⟩
  else if ls == ['f', 'r'] || ls == ['r', 'f'] then some ⟨true, false, true⟩
  else none

/-- The characters up to the closing quotes, and what follows them. -/
def spanText (quote : Char) (triple : Bool) : List Char -> Option (List Char × List Char)
  | [] => none
  | '\\' :: c :: rest => (spanText quote triple rest).map fun (b, r) => ('\\' :: c :: b, r)
  | c :: rest =>
      if c == quote then
        if triple then
          match rest with
          | a :: b :: more =>
              if a == quote && b == quote then some ([], more)
              else (spanText quote triple rest).map fun (b, r) => (c :: b, r)
          | _ => none
        else some ([], rest)
      else if c == '\n' && !triple then none
      else (spanText quote triple rest).map fun (b, r) => (c :: b, r)

/-- The value of exactly `count` hexadecimal digits at the front. -/
def hexValue? (count : Nat) (cs : List Char) : Option Nat :=
  let ds := cs.take count
  if ds.length = count then
    ds.foldlM (fun acc c =>
      if c.toNat < 128 then
        (Number.digitValue? c).bind fun d => if d < 16 then some (acc * 16 + d) else none
      else none) 0
  else none

/-- The letter after a backslash that stands for a control character. -/
def controlChar? : Char -> Option Char
  | '\\' => some '\\'
  | '\'' => some '\''
  | '"' => some '"'
  | 'n' => some '\n'
  | 'r' => some '\r'
  | 't' => some '\t'
  | 'a' => some '\x07'
  | 'b' => some '\x08'
  | 'f' => some '\x0c'
  | 'v' => some '\x0b'
  | _ => none

/-- Whether a character is an octal digit. -/
def isOctal (c : Char) : Bool :=
  '0' ≤ c && c ≤ '7'

/--
Replace the escapes of a text; an unknown one stands as it is written, and so does a
backslash at the end of a piece.  Byte texts know no escapes for code points.  The fuel
is the length of the text.
-/
def unescape (bytes : Bool) : Nat -> List Char -> Option (List Char)
  | 0, cs => some cs
  | _ + 1, [] => some []
  | fuel + 1, '\\' :: rest =>
      match rest with
      | [] => some ['\\']
      | '\n' :: more => unescape bytes fuel more
      | c :: more =>
          match controlChar? c with
          | some d => (unescape bytes fuel more).map (d :: ·)
          | none =>
              if isOctal c then
                let ds := (rest.take 3).takeWhile isOctal
                let n := ds.foldl (fun acc d => acc * 8 + (d.toNat - '0'.toNat)) 0
                let n := if bytes then n % 256 else n
                (unescape bytes fuel (rest.drop ds.length)).map (Char.ofNat n :: ·)
              else if c == 'x' then do
                let n <- hexValue? 2 more
                (unescape bytes fuel (more.drop 2)).map (Char.ofNat n :: ·)
              else if c == 'u' && !bytes then do
                let n <- hexValue? 4 more
                (unescape bytes fuel (more.drop 4)).map (Char.ofNat n :: ·)
              else if c == 'U' && !bytes then do
                let n <- hexValue? 8 more
                if 0x110000 ≤ n then none
                else (unescape bytes fuel (more.drop 8)).map (Char.ofNat n :: ·)
              else if c == 'N' && !bytes then do
                let '\x7b' :: named := more | none
                let name := named.takeWhile (· != '\x7d')
                let d <- Text.characterNamed? name
                if name.length < named.length then
                  (unescape bytes fuel (named.drop (name.length + 1))).map (d :: ·)
                else none
              else (unescape bytes fuel more).map fun r => '\\' :: c :: r
  | fuel + 1, c :: rest => (unescape bytes fuel rest).map (c :: ·)

/-- The characters a literal body stands for. -/
def literalChars (k : TextKind) (body : List Char) : Option (List Char) :=
  if k.raw then some body else unescape k.bytes body.length body

/-- The token of a text with a given body. -/
def textToken (k : TextKind) (body : List Char) : Option Token :=
  if k.template then some (.template k.raw body)
  else if k.bytes then
    if body.any fun c => 128 ≤ c.toNat then none
    else (literalChars k body).map fun cs => .bytes (cs.map fun c => UInt8.ofNat c.toNat)
  else (literalChars k body).map fun cs => .text (String.ofList cs)

/-- A text at the front of some characters, after the letters that announce it. -/
def readText (k : TextKind) (cs : List Char) : Option (Token × List Char) := do
  match cs with
  | q :: a :: b :: rest =>
      let (body, rest) <-
        if a == q && b == q then spanText q true rest else spanText q false (a :: b :: rest)
      some ((<- textToken k body), rest)
  | q :: rest => do
      let (body, rest) <- spanText q false rest
      some ((<- textToken k body), rest)
  | [] => none

/-! ## Lines and marks -/

/-- Where the lexer stands: open brackets, indentation, whether a line begins here. -/
structure Layout where
  brackets : List Char
  indents : List Nat
  lineStart : Bool
  /-- Whether the current line has a token. -/
  written : Bool

/-- The bracket that closes another. -/
def closing? : Char -> Option Char
  | '(' => some ')'
  | '[' => some ']'
  | '\x7b' => some '\x7d'
  | _ => none

/-- Most brackets that may be open at once. -/
def maxBrackets : Nat := 200

/-- The brackets that are open after a mark; `none` when it closes none of them. -/
def bracketsAfter? (open' : List Char) (s : String) : Option (List Char) :=
  match s.toList with
  | [c] =>
      match closing? c with
      | some d => if maxBrackets ≤ open'.length then none else some (d :: open')
      | none =>
          if c == ')' || c == ']' || c == '\x7d' then
            match open' with
            | d :: rest => if c == d then some rest else none
            | [] => none
          else some open'
  | _ => some open'

/-- The column that blanks and tabs at the front lead to, and what follows them. -/
def indentation (column : Nat) : List Char -> Nat × List Char
  | ' ' :: rest => indentation (column + 1) rest
  | '\t' :: rest => indentation ((column / 8 + 1) * 8) rest
  | '\x0c' :: rest => indentation 0 rest
  | cs => (column, cs)

/-- Leave blocks down to a column: their ends, and the columns that remain. -/
def leaveBlocks (column : Nat) : List Nat -> List Token × List Nat
  | [] => ([], [])
  | k :: rest =>
      if column < k then
        let (out, left) := leaveBlocks column rest
        (.dedent :: out, left)
      else ([], k :: rest)

/-- Line ends of every kind become one character. -/
def unifyLineEnds : List Char -> List Char
  | '\r' :: '\n' :: rest => '\n' :: unifyLineEnds rest
  | '\r' :: rest => '\n' :: unifyLineEnds rest
  | c :: rest => c :: unifyLineEnds rest
  | [] => []

/-- The tokens at the end of the text: an open line and open blocks are ended. -/
def endTokens (at' : Layout) : Option (List Token) :=
  if !at'.brackets.isEmpty then none
  else some ((if at'.written then [.newline] else []) ++ at'.indents.map fun _ => .dedent)

/-- Group the characters of a line; `go` groups what follows the first token. -/
def lineTokens (go : Layout -> List Char -> Option (List Token)) (at' : Layout)
    (cs : List Char) : Option (List Token) :=
  let on := { at' with written := true }
  match cs with
  | [] => endTokens at'
  | '\n' :: rest =>
      if at'.brackets.isEmpty then
        (go { at' with lineStart := true, written := false } rest).map fun ts =>
          if at'.written then .newline :: ts else ts
      else go at' rest
  | '\\' :: '\n' :: rest =>
      if rest.isEmpty then none else go at' rest
  | '#' :: rest => go at' (rest.dropWhile (· != '\n'))
  | c :: rest =>
      if c == ' ' || c == '\t' || c == '\x0c' then go at' rest
      else if c == '\'' || c == '"' then do
        let (t, rest) <- readText ⟨false, false, false⟩ cs
        (go on rest).map (t :: ·)
      else if Text.isIdentifierStart c then
        let word := cs.takeWhile Text.isIdentifierPart
        let tail := cs.dropWhile Text.isIdentifierPart
        let quoted := match tail with
          | q :: _ => q == '\'' || q == '"'
          | [] => false
        match (if quoted then TextKind.ofLetters? word else none) with
        | some k => do
            let (t, rest) <- readText k tail
            (go on rest).map (t :: ·)
        | none => (go on tail).map (.name (String.ofList (Text.normalName word)) :: ·)
      else if c.isDigit || (c == '.' && (rest.head?.any Char.isDigit)) then do
        let (v, rest) <- readNumber cs
        (go on rest).map (.number v :: ·)
      else
        match marks.find? fun m => m.toList.isPrefixOf cs with
        | none => none
        | some m => do
            let open' <- bracketsAfter? at'.brackets m
            (go { on with brackets := open' } (cs.drop m.length)).map (.mark m :: ·)

/-- Group characters into tokens; the fuel is one more than their number. -/
def tokensFrom : Nat -> Layout -> List Char -> Option (List Token)
  | 0, _, _ => none
  | fuel + 1, at', cs =>
      if at'.lineStart && at'.brackets.isEmpty then
        let (column, rest) := indentation 0 cs
        match rest with
        | [] => endTokens { at' with lineStart := false }
        | '\n' :: more => tokensFrom fuel at' more
        | '#' :: more => tokensFrom fuel at' (more.dropWhile (· != '\n'))
        | _ =>
            let current := at'.indents.headD 0
            let next := { at' with lineStart := false }
            if current < column then
              (lineTokens (tokensFrom fuel) { next with indents := column :: at'.indents } rest).map
                (.indent :: ·)
            else
              let (out, left) := leaveBlocks column at'.indents
              if (left.headD 0) == column then
                (lineTokens (tokensFrom fuel) { next with indents := left } rest).map (out ++ ·)
              else none
      else lineTokens (tokensFrom fuel) at' cs

/-- The tokens of a text, or `none` when it has none of this form. -/
def tokens? (cs : List Char) : Option (List Token) :=
  let cs := unifyLineEnds cs
  tokensFrom (cs.length + 2) ⟨[], [], true, false⟩ cs

end Reading

end Workflow
