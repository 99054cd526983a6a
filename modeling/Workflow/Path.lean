import Workflow.Text.Search

/-!
# Paths of files

A path is a root and the names below it.  Empty names and single dots say nothing and
fall away; two dots are kept, since they lead to the folder above only where the names
before them exist.
-/

namespace Workflow

/-- A path: where it starts, and the names that lead on from there. -/
structure Path where
  /-- Nothing for a path from the current folder. -/
  root : String
  parts : List String
  deriving Repr, DecidableEq

namespace Path

/-- The name of the folder above. -/
def above : String := ".."

/-- The root at the front of a text: one slash, or exactly two. -/
def rootOf (cs : List Char) : String :=
  match cs with
  | ['/', '/'] => "//"
  | '/' :: '/' :: '/' :: _ => "/"
  | '/' :: '/' :: _ => "//"
  | '/' :: _ => "/"
  | _ => ""

/-- The path that a text names. -/
def ofText (s : String) : Path :=
  let names := (Text.splitAll ['/'] s.length s.toList).map String.ofList
  ⟨rootOf s.toList, names.filter fun n => n != "" && n != "."⟩

/-- The text of a path. -/
def text (p : Path) : String :=
  if p.root.isEmpty && p.parts.isEmpty then "." else p.root ++ "/".intercalate p.parts

/-- The last name of a path. -/
def name (p : Path) : String :=
  p.parts.getLast?.getD ""

/-- The path of a name in a folder. -/
def child (p : Path) (name : String) : Path :=
  { p with parts := p.parts ++ [name] }

/-- The ending of a name from its last dot on, when there is something on both sides of the dot. -/
def suffix (p : Path) : String :=
  let cs := p.name.toList
  match Text.findLast? ['.'] cs with
  | some i => if 0 < i && i + 1 < cs.length then String.ofList (cs.drop i) else ""
  | none => ""

/-- Names without two dots: each pair of dots undoes the name before it. -/
def collapse (parts : List String) : List String :=
  (parts.foldl (fun names p => if p == above then names.drop 1 else p :: names) []).reverse

/-- A path as seen from a folder, from its root on. -/
def resolve (folder p : Path) : Path :=
  if p.root.isEmpty then ⟨folder.root, collapse (folder.parts ++ p.parts)⟩
  else ⟨p.root, collapse p.parts⟩

end Path

end Workflow
