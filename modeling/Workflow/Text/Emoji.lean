import Workflow.Number.Reading
import Workflow.Text.Search
import Workflow.Text.Table.Emoji

/-!
# Emoji by name

A name between colons stands for an emoji; a name that is not known stays as it is.
-/

namespace Workflow

namespace Text

/-- The name that an entry of the table of emoji writes after another one, and its emoji. -/
def nextEmoji (previous : List Char) (written : String) : List Char × List Char :=
  match written.splitOn ":" with
  | [shared, rest] =>
      match rest.splitOn "=" with
      | [name, codes] =>
          let kept := (Number.digitsValue? 10 shared.toList).getD 0
          let code (s : String) : Char := Char.ofNat ((Number.digitsValue? 16 s.toList).getD 0)
          (previous.take kept ++ name.toList, (codes.splitOn " ").map code)
      | _ => (previous, [])
  | _ => (previous, [])

/-- The names and the emoji of entries after a name. -/
def emojiAfter (previous : List Char) : List String -> List (List Char × List Char)
  | [] => []
  | written :: rest =>
      let entry := nextEmoji previous written
      entry :: emojiAfter entry.1 rest

/-- The names and the emoji of a table. -/
def emojiIn (table : String) : List (List Char × List Char) :=
  emojiAfter [] ((table.splitOn "\n").flatMap fun line => line.splitOn ";")

/-- The emoji of a name in small letters. -/
def emojiNamed? (name : List Char) : Option (List Char) :=
  (emojiIn Table.emojiNames).lookup name

/-- A name before a colon, how its emoji is to be shown, and what follows the colon. -/
def emojiName? : List Char -> Option (List Char × List Char × List Char)
  | [] => none
  | c :: rest =>
      if c == ':' then some ([], [], rest)
      else if "-emoji:".toList.isPrefixOf (c :: rest) then some ([], ['\ufe0f'], rest.drop 6)
      else if "-text:".toList.isPrefixOf (c :: rest) then some ([], ['\ufe0e'], rest.drop 5)
      else if isBlank c then none
      else (emojiName? rest).map fun (name, form, after) => (c :: name, form, after)

/-- Replace names between colons by their emoji; the fuel is the length of the text. -/
def replaceEmojiFrom : Nat -> List Char -> List Char
  | 0, cs => cs
  | _ + 1, [] => []
  | fuel + 1, c :: rest =>
      match (if c == ':' then emojiName? rest else none) with
      | none => c :: replaceEmojiFrom fuel rest
      | some (name, form, after) =>
          match emojiNamed? (lower name) with
          | some emoji => emoji ++ form ++ replaceEmojiFrom fuel after
          | none => c :: rest.take (rest.length - after.length) ++ replaceEmojiFrom fuel after

/-- Replace names between colons by their emoji. -/
def replaceEmoji (cs : List Char) : List Char :=
  replaceEmojiFrom cs.length cs

end Text

end Workflow
