import Workflow.Value.Order
import Workflow.Number.Reading

/-!
# Reading JSON

A document is read into a value; a repeated member of an object takes the place of the
first one.  A fault tells what was expected and at which character.
-/

namespace Workflow

namespace Json

/-- Why a text is not a JSON document. -/
inductive Cause where
  | expectingValue
  | expectingName
  | expectingColon
  | expectingComma
  | unterminatedString
  | controlCharacter
  | badEscape
  | badCodePoint
  | extraData
  | byteOrderMark
  deriving Repr, DecidableEq

/-- The wording of a cause. -/
def Cause.wording : Cause -> String
  | .expectingValue => "Expecting value"
  | .expectingName => "Expecting property name enclosed in double quotes"
  | .expectingColon => "Expecting ':' delimiter"
  | .expectingComma => "Expecting ',' delimiter"
  | .unterminatedString => "Unterminated string starting at"
  | .controlCharacter => "Invalid control character at"
  | .badEscape => "Invalid \\escape"
  | .badCodePoint => "Invalid \\uXXXX escape"
  | .extraData => "Extra data"
  | .byteOrderMark => "Unexpected UTF-8 BOM (decode using utf-8-sig)"

/-- What can go wrong when a document is read. -/
inductive ReadFault where
  | malformed (cause : Cause) (place : Nat)
  /-- The document is one, but it is too large to be read. -/
  | refused (f : Fault)
  deriving Repr, DecidableEq

/-- The fault of an integer that is too long. -/
def digitsFault (digits : Nat) : Fault :=
  .badValue
    s!"Exceeds the limit (4300 digits) for integer string conversion: value has {digits} digits; use sys.set_int_max_str_digits() to increase the limit"

/-- The fault of values that lie too deep in others. -/
def depthFault (kind : String) : Fault :=
  .other "RecursionError"
    s!"maximum recursion depth exceeded while decoding a JSON {kind} from a unicode string"

/-- How deep values may lie in others. -/
def maxNesting : Nat := 985

/-- A result, the characters that are left and the place of the first of them. -/
abbrev Rest (α : Type) := α × List Char × Nat

/-- Fail at a place. -/
def fail (cause : Cause) (place : Nat) : Except ReadFault (Rest α) :=
  .error (.malformed cause place)

/-- White space of JSON. -/
def isSpace (c : Char) : Bool :=
  c == ' ' || c == '\t' || c == '\n' || c == '\r'

/-- Pass over white space. -/
def skipSpace (place : Nat) : List Char -> List Char × Nat
  | [] => ([], place)
  | c :: rest => if isSpace c then skipSpace (place + 1) rest else (c :: rest, place)

/-- The value of a hexadecimal digit. -/
def hexDigit? (c : Char) : Option Nat :=
  if c.isDigit then some (c.toNat - '0'.toNat)
  else if 'a' ≤ c && c ≤ 'f' then some (c.toNat - 'a'.toNat + 10)
  else if 'A' ≤ c && c ≤ 'F' then some (c.toNat - 'A'.toNat + 10)
  else none

/-- The value of four hexadecimal digits at the front. -/
def hexQuad? : List Char -> Option Nat
  | a :: b :: c :: d :: _ => do
      some ((((<- hexDigit? a) * 16 + (<- hexDigit? b)) * 16 + (<- hexDigit? c)) * 16
        + (<- hexDigit? d))
  | _ => none

/-- The character a letter after a backslash stands for. -/
def escaped? : Char -> Option Char
  | '"' => some '"'
  | '\\' => some '\\'
  | '/' => some '/'
  | 'b' => some '\x08'
  | 'f' => some '\x0c'
  | 'n' => some '\n'
  | 'r' => some '\r'
  | 't' => some '\t'
  | _ => none

/-- A code point as a character; half of a pair that stands alone is replaced. -/
def charOf (n : Nat) : Char :=
  if 0xd800 ≤ n && n ≤ 0xdfff then '\ufffd' else Char.ofNat n

/-- The code point of a low half of a pair, when one is written next. -/
def lowHalf? : List Char -> Option Nat
  | '\\' :: 'u' :: rest => (hexQuad? rest).filter fun n => 0xdc00 ≤ n && n ≤ 0xdfff
  | _ => none

/-- Whether an escape is written next whose digits are not hexadecimal. -/
def badLowHalf : List Char -> Bool
  | '\\' :: 'u' :: rest => 4 < rest.length && (hexQuad? rest).isNone
  | _ => false

/--
The rest of a string after its opening quote, which stands at `start`.  The fuel is
the number of characters.
-/
def readString (start : Nat) : Nat -> List Char -> Nat -> List Char -> Except ReadFault (Rest String)
  | 0, _, _, _ => fail .unterminatedString start
  | _ + 1, _, _, [] => fail .unterminatedString start
  | fuel + 1, acc, place, c :: rest =>
      if c == '"' then .ok (String.ofList acc.reverse, rest, place + 1)
      else if c != '\\' then
        if c.toNat < 32 then fail .controlCharacter place
        else readString start fuel (c :: acc) (place + 1) rest
      else
        match rest with
        | [] => fail .unterminatedString start
        | 'u' :: more =>
            if more.length ≤ 4 then fail .badCodePoint (place + 1)
            else
              match hexQuad? more with
              | none => fail .badCodePoint (place + 1)
              | some n =>
                  let after := more.drop 4
                  let high := 0xd800 ≤ n && n ≤ 0xdbff
                  if high && badLowHalf after then fail .badCodePoint (place + 7)
                  else
                  match (if high then lowHalf? after else none) with
                  | some low =>
                      let code := 0x10000 + (n - 0xd800) * 1024 + (low - 0xdc00)
                      readString start fuel (Char.ofNat code :: acc) (place + 12) (after.drop 6)
                  | none => readString start fuel (charOf n :: acc) (place + 6) after
        | e :: more =>
            match escaped? e with
            | some d => readString start fuel (d :: acc) (place + 2) more
            | none => fail .badEscape place

/-- Split the digits off the front. -/
def spanDigits (cs : List Char) : List Char × List Char :=
  cs.span Char.isDigit

/-- The whole part of a number, and what follows it; nothing follows a zero in front. -/
def wholePart? (cs : List Char) : Option (List Char × List Char) :=
  match cs with
  | '0' :: rest => some (['0'], rest)
  | c :: _ => if c.isDigit then some (spanDigits cs) else none
  | [] => none

/-- The digits behind a point, if there are any, and what follows them. -/
def fractionPart (cs : List Char) : List Char × List Char :=
  match cs with
  | '.' :: more =>
      let (ds, tail) := spanDigits more
      if ds.isEmpty then ([], cs) else (ds, tail)
  | _ => ([], cs)

/-- An exponent, if there is one, and what follows it. -/
def exponentPart? (cs : List Char) : Option (Int × List Char) :=
  match cs with
  | e :: more =>
      if e == 'e' || e == 'E' then
        let (minus, digits) := Number.splitSign more
        let (ds, tail) := spanDigits digits
        if ds.isEmpty then none
        else
          let n : Int := (Number.digitsValue? 10 ds).getD 0
          some (if minus then -n else n, tail)
      else none
  | [] => none

/-- An integer from its digits, of which there may be too many. -/
def integerOf (negative : Bool) (digits : List Char) : Except ReadFault Value :=
  if Number.maxDigits < digits.length then .error (.refused (digitsFault digits.length))
  else
    let n : Int := (Number.digitsValue? 10 digits).getD 0
    .ok (.int (if negative then -n else n))

/-- A number without its sign: its whole part, fraction and exponent. -/
def readUnsigned? (negative : Bool) (cs : List Char) :
    Option (Except ReadFault Value × List Char) := do
  let (whole, rest) <- wholePart? cs
  let (fraction, rest) := fractionPart rest
  let exponent := exponentPart? rest
  if fraction.isEmpty && exponent.isNone then some (integerOf negative whole, rest)
  else
    let (e, rest) := exponent.getD (0, rest)
    some (.ok (.float (Number.DecimalParts.toFloat negative ⟨whole, fraction, e⟩)), rest)

/-- A number at the front, what follows it, and how many characters it has. -/
def readNumber? (cs : List Char) : Option (Except ReadFault Value × List Char × Nat) := do
  let (v, rest) <- match cs with
    | '-' :: body => readUnsigned? true body
    | _ => readUnsigned? false cs
  some (v, rest, cs.length - rest.length)

/-- The words that stand for values. -/
def words : List (String × Value) :=
  [("null", .null), ("true", .bool true), ("false", .bool false), ("NaN", .float (0.0 / 0.0)),
    ("Infinity", .float (1.0 / 0.0)), ("-Infinity", .float (-(1.0 / 0.0)))]

/-- A value that is a word or a number. -/
def readWordOrNumber (place : Nat) (cs : List Char) : Except ReadFault (Rest Value) :=
  match words.find? fun (w, _) => w.toList.isPrefixOf cs with
  | some (w, v) => .ok (v, cs.drop w.length, place + w.length)
  | none =>
      match readNumber? cs with
      | some (.ok v, rest, used) => .ok (v, rest, place + used)
      | some (.error e, _, _) => .error e
      | none => fail .expectingValue place

mutual

/-- A value at a depth; the fuel bounds the nesting and the number of parts. -/
def readValue (depth : Nat) : Nat -> Nat -> List Char -> Except ReadFault (Rest Value)
  | 0, place, _ => fail .expectingValue place
  | fuel + 1, place, cs =>
      match cs with
      | '"' :: rest => do
          let (s, rest, place) <- readString place (rest.length + 1) [] (place + 1) rest
          .ok (.str s, rest, place)
      | '\x7b' :: rest =>
          if maxNesting ≤ depth then .error (.refused (depthFault "object"))
          else
            let (rest, place) := skipSpace (place + 1) rest
            match rest with
            | '\x7d' :: rest => .ok (.dict [], rest, place + 1)
            | rest => do
                let (entries, rest, place) <- readMembers (depth + 1) fuel [] place rest
                .ok (.dict entries, rest, place)
      | '[' :: rest =>
          if maxNesting ≤ depth then .error (.refused (depthFault "array"))
          else
            let (rest, place) := skipSpace (place + 1) rest
            match rest with
            | ']' :: rest => .ok (.list [], rest, place + 1)
            | rest => do
                let (items, rest, place) <- readItems (depth + 1) fuel place rest
                .ok (.list items, rest, place)
      | _ => readWordOrNumber place cs

/-- The items of an array up to its end. -/
def readItems (depth : Nat) : Nat -> Nat -> List Char -> Except ReadFault (Rest (List Value))
  | 0, place, _ => fail .expectingValue place
  | fuel + 1, place, cs => do
      let (v, rest, place) <- readValue depth fuel place cs
      let (rest, place) := skipSpace place rest
      match rest with
      | ']' :: rest => .ok ([v], rest, place + 1)
      | ',' :: rest => do
          let (rest, place) := skipSpace (place + 1) rest
          let (more, rest, place) <- readItems depth fuel place rest
          .ok (v :: more, rest, place)
      | _ => fail .expectingComma place

/-- The members of an object up to its end. -/
def readMembers (depth : Nat) : Nat -> List (Value × Value) -> Nat -> List Char -> Except ReadFault (Rest (List (Value × Value)))
  | 0, _, place, _ => fail .expectingName place
  | fuel + 1, acc, place, cs => do
      match cs with
      | '"' :: rest => do
          let (name, rest, place) <- readString place (rest.length + 1) [] (place + 1) rest
          let (rest, place) := skipSpace place rest
          match rest with
          | ':' :: rest => do
              let (rest, place) := skipSpace (place + 1) rest
              let (v, rest, place) <- readValue depth fuel place rest
              let acc := Value.putField acc name v
              let (rest, place) := skipSpace place rest
              match rest with
              | '\x7d' :: rest => .ok (acc, rest, place + 1)
              | ',' :: rest =>
                  let (rest, place) := skipSpace (place + 1) rest
                  readMembers depth fuel acc place rest
              | _ => fail .expectingComma place
          | _ => fail .expectingColon place
      | _ => fail .expectingName place

end

/-- Read a whole document. -/
def read (source : String) : Except ReadFault Value := do
  let cs := source.toList
  match cs with
  | '\ufeff' :: _ => .error (.malformed .byteOrderMark 0)
  | _ => do
      let (rest, place) := skipSpace 0 cs
      let (v, rest, place) <- readValue 0 (cs.length + 1) place rest
      let (rest, place) := skipSpace place rest
      if rest.isEmpty then .ok v else .error (.malformed .extraData place)

/-- Line and column of a place, both counted from one. -/
def lineColumn (source : String) (place : Nat) : Nat × Nat :=
  (source.toList.take place).foldl
    (fun (line, column) c => if c == '\n' then (line + 1, 1) else (line, column + 1)) (1, 1)

end Json

end Workflow
