import Workflow.Number.Reading
import Workflow.Text.Table.Entity

/-!
# Characters by name or number in markup

A reference is an ampersand with a name or a number after it, and mostly a semicolon.
A name that is not known may begin with one that is.
-/

namespace Workflow

namespace Text

/-- An entry of a table of names: the characters after the equals sign, in hexadecimal digits. -/
def tableEntry (entry : String) : String × List Char :=
  match entry.splitOn "=" with
  | [name, codes] =>
      (name, (codes.splitOn ",").map fun code =>
        Char.ofNat ((Number.digitsValue? 16 code.toList).getD 0))
  | _ => (entry, [])

/-- The entries of a table of names between blanks and line breaks. -/
def tableEntries (table : String) : List (String × List Char) :=
  (table.splitOn "\n").flatMap fun line => (line.splitOn " ").map tableEntry

/-- The characters that names in markup stand for. -/
def markupNames : List (String × List Char) :=
  tableEntries Table.markupNames

/-- The characters that numbers from 128 to 159 stand for, in order. -/
def windowsCharacters : List Char :=
  ['€', '\x81', '‚', 'ƒ', '„', '…', '†', '‡', 'ˆ', '‰', 'Š', '‹', 'Œ', '\x8d', 'Ž', '\x8f',
    '\x90', '‘', '’', '“', '”', '•', '–', '—', '˜', '™', 'š', '›', 'œ', '\x9d', 'ž', 'Ÿ']

/-- Whether a code point stands for no character. -/
def isNoCharacter (n : Nat) : Bool :=
  (1 ≤ n && n ≤ 8) || n == 11 || (14 ≤ n && n ≤ 31) || n == 127
    || (0xfdd0 ≤ n && n ≤ 0xfdef) || n % 0x10000 == 0xfffe || n % 0x10000 == 0xffff

/-- The characters that a number stands for. -/
def numberedCharacter (n : Nat) : List Char :=
  if n = 0 || (0xd800 ≤ n && n ≤ 0xdfff) || 0x10ffff < n then ['\ufffd']
  else if 128 ≤ n && n ≤ 159 then (windowsCharacters[n - 128]?).toList
  else if isNoCharacter n then []
  else [Char.ofNat n]

/-- The characters of the longest beginning of a text that is a name, and the rest; names have at least two characters. -/
def longestName? (cs : List Char) : Nat -> Option (List Char × List Char)
  | 0 => none
  | n + 1 =>
      if n = 0 then none
      else
        match markupNames.lookup (String.ofList (cs.take (n + 1))) with
        | some found => some (found, cs.drop (n + 1))
        | none => longestName? cs n

/-- A character of a name in markup. -/
def isNamePart (c : Char) : Bool :=
  !(['\t', '\n', '\x0c', ' ', '<', '&', '#', ';'].contains c)

/-- What follows a semicolon, if there is one. -/
def afterSemicolon : List Char -> List Char
  | ';' :: rest => rest
  | cs => cs

/-- The number in some digits, and what follows them; `none` without digits. -/
def referenceNumber? (base : Nat) (isDigit : Char -> Bool) (cs : List Char) :
    Option (Nat × List Char) :=
  let digits := cs.takeWhile isDigit
  if digits.isEmpty then none
  else
    (Number.digitsValue? base digits).map fun n => (n, afterSemicolon (cs.drop digits.length))

/-- A digit to base sixteen. -/
def isHexDigit (c : Char) : Bool :=
  c.isDigit || ('a' ≤ c && c ≤ 'f') || ('A' ≤ c && c ≤ 'F')

/-- The number after a number sign, and what follows it. -/
def codeReference? : List Char -> Option (Nat × List Char)
  | 'x' :: rest => referenceNumber? 16 isHexDigit rest
  | 'X' :: rest => referenceNumber? 16 isHexDigit rest
  | cs => referenceNumber? 10 Char.isDigit cs

/-- What the reference after an ampersand stands for, and what follows it; `none` when there is none. -/
def reference? (cs : List Char) : Option (List Char × List Char) :=
  match cs with
  | '#' :: rest => (codeReference? rest).map fun (n, after) => (numberedCharacter n, after)
  | cs =>
      let name := (cs.take 32).takeWhile isNamePart
      let rest := cs.drop name.length
      if name.isEmpty then none
      else
        let whole := match rest with
          | ';' :: _ => name ++ [';']
          | _ => name
        let after := cs.drop whole.length
        match markupNames.lookup (String.ofList whole) with
        | some found => some (found, after)
        | none =>
            (longestName? whole (whole.length - 1)).map fun (found, left) => (found ++ left, after)

/-- A text with its references replaced.  The fuel is the length. -/
def withoutReferences : Nat -> List Char -> List Char
  | 0, cs => cs
  | _ + 1, [] => []
  | fuel + 1, c :: rest =>
      if c == '&' then
        match reference? rest with
        | some (found, after) => found ++ withoutReferences fuel after
        | none => c :: withoutReferences fuel rest
      else c :: withoutReferences fuel rest

end Text

end Workflow
