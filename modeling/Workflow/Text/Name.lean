import Workflow.Number.Reading
import Workflow.Text.Table.Name

/-!
# Characters by name

Characters can be written by their names, in capital or small letters.  The characters of
large scripts are named by their code points.
-/

namespace Workflow

namespace Text

/-- The name that an entry of the table of names adds to, and its code point. -/
structure NameEntry where
  code : Nat
  words : List String

/-- The entry that a text in the table writes, after another entry. -/
def NameEntry.next (previous : NameEntry) (written : String) : NameEntry :=
  match written.splitOn ":" with
  | [digits, name] =>
      let shared := (Number.digitsValue? 10 (name.toList.take 1)).getD 0
      let code :=
        if digits.isEmpty then previous.code + 1
        else (Number.digitsValue? 16 digits.toList).getD 0
      ⟨code, previous.words.take shared ++ (name.drop 1).toString.splitOn " "⟩
  | _ => previous

/-- The names and code points of the texts of a table, after an entry. -/
def namesAfter (previous : NameEntry) : List String -> List (String × Nat)
  | [] => []
  | written :: rest =>
      let entry := previous.next written
      (" ".intercalate entry.words, entry.code) :: namesAfter entry rest

/-- The names and code points of a table. -/
def namesIn (table : String) : List (String × Nat) :=
  namesAfter ⟨0, []⟩ ((table.splitOn "\n").flatMap fun line => line.splitOn ";")

/-- The first and the last of the characters that are named by their code points. -/
def ideographRuns : List (Nat × Nat) :=
  [(0x3400, 0x4dbf), (0x4e00, 0x9fff), (0x20000, 0x2a6df), (0x2a700, 0x2b738),
    (0x2b740, 0x2b81d), (0x2b820, 0x2cea1), (0x2ceb0, 0x2ebe0), (0x30000, 0x3134a)]

/-- The code point in the name of a character of a large script. -/
def ideographNamed? (name : List Char) : Option Nat := do
  let stem := "CJK UNIFIED IDEOGRAPH-".toList
  let digits := name.drop stem.length
  let code <- Number.digitsValue? 16 digits
  let known := ideographRuns.any fun (first, last) => first ≤ code && code ≤ last
  if stem.isPrefixOf name && (digits.length = 4 || digits.length = 5)
      && digits.all (fun c => c.isDigit || ('A' ≤ c && c ≤ 'F')) && known then some code
  else none

/-- The character of a name. -/
def characterNamed? (name : List Char) : Option Char :=
  let capital := String.ofList (name.map Char.toUpper)
  let found := (ideographNamed? name).orElse fun _ =>
    ((namesIn Table.characterNames).lookup capital).orElse fun _ =>
      (namesIn Table.otherNames).lookup capital
  found.map Char.ofNat

end Text

end Workflow
