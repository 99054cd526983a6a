import Workflow.Path
import Workflow.Text.Utf8
import Workflow.Fault

/-!
# Files

The files that definitions are read from.  A folder exists when it is listed or when
something below it is.
-/

namespace Workflow

/-- What a path leads to. -/
inductive Entry where
  | file (data : List UInt8)
  | folder
  deriving Repr, DecidableEq

/-- The current folder, and what the names from the root lead to. -/
structure Files where
  home : Path
  entries : List (List String × Entry)
  deriving Repr

namespace Files

/-- What names from the root lead to, none of them being two dots. -/
def entryAt? (f : Files) (names : List String) : Option Entry :=
  match f.entries.lookup names with
  | some e => some e
  | none =>
      if names.isPrefixOf f.home.parts || f.entries.any (fun (p, _) => names.isPrefixOf p) then
        some .folder
      else none

/-- Whether names from the root lead to a folder. -/
def isFolderAt (f : Files) (names : List String) : Bool :=
  f.entryAt? names == some .folder

/-- Follow names from a folder; every name but the last leads through a folder. -/
def walk? (f : Files) (here : List String) : List String -> Option (List String)
  | [] => some here
  | name :: rest =>
      if !f.isFolderAt here then none
      else if name == Path.above then f.walk? here.dropLast rest
      else f.walk? (here ++ [name]) rest

/-- The names from the root that a path leads along. -/
def place? (f : Files) (p : Path) : Option (List String) :=
  if p.root.isEmpty then f.walk? f.home.parts p.parts else f.walk? [] p.parts

/-- What a path leads to. -/
def find? (f : Files) (p : Path) : Option Entry := do
  f.entryAt? (<- f.place? p)

/-- The names in the folder at a path, each once. -/
def names (f : Files) (p : Path) : List String :=
  match f.place? p with
  | none => []
  | some here =>
      (f.entries.filterMap fun (q, _) =>
        if here.isPrefixOf q then q[here.length]? else none).eraseDups

/-- A text whose lines all end the same way. -/
def plainLines : List Char -> List Char
  | '\r' :: '\n' :: rest => '\n' :: plainLines rest
  | '\r' :: rest => '\n' :: plainLines rest
  | c :: rest => c :: plainLines rest
  | [] => []

/-- The text that bytes are. -/
def textOf (data : List UInt8) : Outcome String :=
  match Text.decodeUtf8 data with
  | .ok cs => .ok (String.ofList (plainLines cs))
  | .error e => .error (.other "UnicodeDecodeError" e.message)

end Files

end Workflow
