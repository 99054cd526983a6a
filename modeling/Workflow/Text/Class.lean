import Workflow.Text.Table.Class
import Workflow.Text.Table.Case

/-!
# Character classes and case

Membership in the tabulated classes, and the case mappings of characters and texts.
-/

namespace Workflow

namespace Text

/-- The number of entries at or below `n` in an increasing array, by bisection. -/
def countAtMost (bounds : Array Nat) (n : Nat) : Nat :=
  go bounds.size 0 bounds.size
where
  /-- Bisect between `low` and `high`; the fuel bounds the number of halvings. -/
  go : Nat -> Nat -> Nat -> Nat
    | 0, low, _ => low
    | fuel + 1, low, high =>
        if low < high then
          let mid := (low + high) / 2
          if bounds.getD mid 0 ≤ n then go fuel (mid + 1) high else go fuel low mid
        else
          low

/-- Whether a character belongs to a class given by its boundaries. -/
def inClass (bounds : Array Nat) (c : Char) : Bool :=
  countAtMost bounds c.toNat % 2 == 1

/-- White space of every script, the information separators included. -/
def isBlank (c : Char) : Bool :=
  inClass Table.blank c

/-- Whether a character is shown as itself inside a quoted text. -/
def isPrintable (c : Char) : Bool :=
  if c.toNat < 127 then 32 ≤ c.toNat else inClass Table.printable c

/-- A letter of any script. -/
def isLetter (c : Char) : Bool :=
  if c.toNat < 128 then c.isAlpha else inClass Table.alphabetic c

/-- A digit that can stand in a decimal number. -/
def isDecimal (c : Char) : Bool :=
  if c.toNat < 128 then c.isDigit else inClass Table.decimalDigit c

/-- A decimal digit or another sign for a digit, such as a superscript. -/
def isDigitSign (c : Char) : Bool :=
  isDecimal c || inClass Table.otherDigit c

/-- A character with a numeric value. -/
def isNumeric (c : Char) : Bool :=
  isDigitSign c || inClass Table.otherNumeric c

/-- The value of a decimal digit: its distance from the zero of its run, modulo ten. -/
def decimalValue? (c : Char) : Option Nat :=
  let count := countAtMost Table.decimalDigit c.toNat
  if count % 2 = 1 then
    some ((c.toNat - Table.decimalDigit.getD (count - 1) 0) % 10)
  else
    none

/-- A letter or a character with a numeric value. -/
def isAlphanumeric (c : Char) : Bool :=
  isLetter c || isNumeric c

/-- A character of a word: alphanumeric or an underscore. -/
def isWordChar (c : Char) : Bool :=
  isAlphanumeric c || c == '_'

/-- A character that may begin an identifier. -/
def isIdentifierStart (c : Char) : Bool :=
  if c.toNat < 128 then c.isAlpha || c == '_' else inClass Table.identifierStart c

/-- A character that may continue an identifier. -/
def isIdentifierPart (c : Char) : Bool :=
  if c.toNat < 128 then c.isAlphanum || c == '_' else inClass Table.identifierPart c

/-- Whether a text is an identifier. -/
def isIdentifier (s : List Char) : Bool :=
  match s with
  | [] => false
  | c :: rest => isIdentifierStart c && rest.all isIdentifierPart

/-! ## Case -/

/-- The shift of the run that maps a code point, if one does. -/
def runShift? (runs : Array (Nat × Nat × Nat × Int)) (n : Nat) : Option Int :=
  (runs.find? fun (first, last, step, _) =>
    decide (first ≤ n) && decide (n ≤ last) && (n - first) % step == 0).map (·.2.2.2)

/-- Map one character by a table of runs and a table of longer images. -/
def mapCase (runs : Array (Nat × Nat × Nat × Int)) (special : List (Nat × List Nat))
    (c : Char) : List Char :=
  match runShift? runs c.toNat with
  | some shift => [Char.ofNat ((c.toNat : Int) + shift).toNat]
  | none =>
      match special.lookup c.toNat with
      | some image => image.map Char.ofNat
      | none => [c]

/-- The capital form of a character. -/
def upperChar (c : Char) : List Char :=
  if c.toNat < 128 then [c.toUpper] else mapCase Table.upperRuns Table.upperSpecial c

/-- The small form of a character, wherever it stands. -/
def lowerChar (c : Char) : List Char :=
  if c.toNat < 128 then [c.toLower] else mapCase Table.lowerRuns Table.lowerSpecial c

/-- The form of a character at the head of a word. -/
def titleChar (c : Char) : List Char :=
  match Table.titleSpecial.lookup c.toNat with
  | some image => image.map Char.ofNat
  | none => upperChar c

/-- A capital letter. -/
def isUpper (c : Char) : Bool :=
  if c.toNat < 128 then c.isUpper
  else (lowerChar c != [c] && upperChar c == [c]) || inClass Table.upperUnmapped c

/-- A small letter. -/
def isLower (c : Char) : Bool :=
  if c.toNat < 128 then c.isLower
  else (upperChar c != [c] && lowerChar c == [c]) || inClass Table.lowerUnmapped c

/-- A letter that has case. -/
def isCased (c : Char) : Bool :=
  isUpper c || isLower c || upperChar c != lowerChar c

/-- The capital form of a text. -/
def upper (s : List Char) : List Char :=
  s.flatMap upperChar

/-- Marks that a search for the neighbouring letter passes over. -/
def isCaseIgnorable (c : Char) : Bool :=
  inClass Table.caseIgnorable c

/-- A capital sigma that ends a word: a cased letter before it and none after it. -/
def isFinalSigma (before after : List Char) : Bool :=
  let cased (s : List Char) : Bool :=
    match s.dropWhile isCaseIgnorable with
    | [] => false
    | c :: _ => isCased c
  cased before && !cased after

/-- The small form of a character between others; a capital sigma at the end of a word becomes a final one. -/
def lowerBetween (before : List Char) (c : Char) (after : List Char) : List Char :=
  if c == 'Σ' then [if isFinalSigma before after then 'ς' else 'σ'] else lowerChar c

/-- The small form of a text. -/
def lower (s : List Char) : List Char :=
  go [] s
where
  /-- `before` holds the characters already passed, last first. -/
  go (before : List Char) : List Char -> List Char
    | [] => []
    | c :: rest => lowerBetween before c rest ++ go (c :: before) rest

/-- Capital at the head of each run of cased letters, small elsewhere. -/
def title (s : List Char) : List Char :=
  go false [] s
where
  /-- `inWord` says whether the last character was cased. -/
  go (inWord : Bool) (before : List Char) : List Char -> List Char
    | [] => []
    | c :: rest =>
        (if inWord then lowerBetween before c rest else titleChar c)
          ++ go (isCased c) (c :: before) rest

/-- Capital first character, small rest. -/
def capitalize (s : List Char) : List Char :=
  match s with
  | [] => []
  | c :: rest => titleChar c ++ lower.go [c] rest

/-- Exchange capital and small letters. -/
def swapCase (s : List Char) : List Char :=
  go [] s
where
  /-- `before` holds the characters already passed, last first. -/
  go (before : List Char) : List Char -> List Char
    | [] => []
    | c :: rest =>
        (if isUpper c then lowerBetween before c rest
          else if isLower c then upperChar c
          else [c]) ++ go (c :: before) rest

/-- The form in which texts are compared without regard to case. -/
def foldCase (s : List Char) : List Char :=
  s.flatMap fun c =>
    if c == 'ẞ' then ['s', 's']
    else if c == 'ı' || (0x13a0 ≤ c.toNat && c.toNat ≤ 0x13f5) then [c]
    else if 0xab70 ≤ c.toNat && c.toNat ≤ 0xabbf then [Char.ofNat (c.toNat - 0x97d0)]
    else if 0x13f8 ≤ c.toNat && c.toNat ≤ 0x13fd then [Char.ofNat (c.toNat - 8)]
    else (upperChar c).flatMap lowerChar

/-! ## Trimming -/

/-- Drop the characters of a class from the front. -/
def trimStart (p : Char -> Bool) (s : List Char) : List Char :=
  s.dropWhile p

/-- Drop the characters of a class from the end. -/
def trimEnd (p : Char -> Bool) (s : List Char) : List Char :=
  (s.reverse.dropWhile p).reverse

/-- Drop the characters of a class from both ends. -/
def trim (p : Char -> Bool) (s : List Char) : List Char :=
  trimEnd p (trimStart p s)

/-- Drop white space from both ends of a text. -/
def strip (s : String) : String :=
  String.ofList (trim isBlank s.toList)

end Text

end Workflow
