import Workflow.Json.Reading
import Workflow.Value.Function

/-!
# Writing JSON

The text of a value as a JSON document.  Values that JSON does not know are written as
strings that hold their plain text, where the style allows it.
-/

namespace Workflow

namespace Json

/-- The choices of a writer. -/
structure Style where
  /-- Whether characters outside ASCII are escaped. -/
  ascii : Bool
  /-- Blanks, or any text, for each level of nesting; parts stand on one line without it. -/
  indent : Option String
  /-- What stands between two parts on one line. -/
  separator : String
  /-- What stands between a name and its value. -/
  colon : String
  /-- Whether the members of an object are sorted by their keys. -/
  sorted : Bool
  /-- Whether unknown values are written by their plain text. -/
  lenient : Bool

/-- Everything on one line, with a blank after each comma and colon. -/
def lineStyle : Style :=
  ⟨true, none, ", ", ": ", false, true⟩

/-- Everything on one line without blanks. -/
def compactStyle : Style :=
  ⟨true, none, ",", ":", true, true⟩

/-- A UTF-16 unit as an escape. -/
def unitEscape (n : Nat) : List Char :=
  '\\' :: 'u' :: Text.hexPadded 4 n

/-- A character inside a string. -/
def stringChar (ascii : Bool) (c : Char) : List Char :=
  match c with
  | '"' => ['\\', '"']
  | '\\' => ['\\', '\\']
  | '\n' => ['\\', 'n']
  | '\r' => ['\\', 'r']
  | '\t' => ['\\', 't']
  | '\x0c' => ['\\', 'f']
  | '\x08' => ['\\', 'b']
  | c =>
      if c.toNat < 32 then unitEscape c.toNat
      else if !ascii || c.toNat < 127 then [c]
      else if c.toNat < 0x10000 then unitEscape c.toNat
      else
        let n := c.toNat - 0x10000
        unitEscape (0xd800 + n / 1024) ++ unitEscape (0xdc00 + n % 1024)

/-- A string between quotes. -/
def quote (ascii : Bool) (s : String) : String :=
  String.ofList ('"' :: s.toList.flatMap (stringChar ascii) ++ ['"'])

/-- A double; infinities and `NaN` are words. -/
def floatText (x : Float) : String :=
  if x.isNaN then "NaN"
  else if x.isInf then if x < 0.0 then "-Infinity" else "Infinity"
  else Number.floatText x

/-- The name a key is written as. -/
def keyText (v : Value) : Outcome String :=
  match v.bare with
  | .str s => .ok s
  | .markup s => .ok s
  | .float x => .ok (floatText x)
  | .bool true => .ok "true"
  | .bool false => .ok "false"
  | .null => .ok "null"
  | .int n => if (Value.int n).exceedsDigits then .error Value.tooManyDigits else .ok (toString n)
  | v => .error (.badArgument s!"keys must be str, int, float, bool or None, not {v.kind}")

/-- Line breaks and indentation of a level. -/
def breakLine (indent : Option String) (level : Nat) : String :=
  match indent with
  | none => ""
  | some unit => "\n" ++ String.join (List.replicate level unit)

/-- Parts between brackets, on lines of their own when the style asks for it. -/
def enclose (style : Style) (level : Nat) (opening closing : String) (parts : List String) :
    String :=
  if parts.isEmpty then opening ++ closing
  else
    let between := match style.indent with
      | none => style.separator
      | some _ => "," ++ breakLine style.indent (level + 1)
    opening ++ breakLine style.indent (level + 1) ++ between.intercalate parts
      ++ breakLine style.indent level ++ closing

/-- What is said when a value holds itself. -/
def circular : Fault :=
  .badValue "Circular reference detected"

/-- What is said when values lie too deep in others; one line is written by other means. -/
def tooDeep (style : Style) : Fault :=
  let doing := match style.indent with
    | none => "encoding a JSON object"
    | some _ => "calling a Python object"
  .other "RecursionError" s!"maximum recursion depth exceeded while {doing}"

/-- What is written at a level of nesting, unless it is too deep. -/
def nested (style : Style) (level : Nat) (text : Outcome String) : Outcome String :=
  if maxNesting ≤ level then .error (tooDeep style) else text

/-- The members of an object in the order of a style: as they are, or sorted by their keys. -/
def arranged (style : Style) (members : List (Value × Outcome (String × String))) :
    Outcome (List (Outcome (String × String))) := do
  if style.sorted then
    let sorted <- Value.sortBy (fun a b => Value.related .lt a.1 b.1) members
    .ok (sorted.map (·.2))
  else .ok (members.map (·.2))

mutual

/-- The text of a value at a level of nesting. -/
def writeAt (style : Style) (level : Nat) (v : Value) : Outcome String :=
  match v with
  | .str s => .ok (quote style.ascii s)
  | .markup s => .ok (quote style.ascii s)
  | .null => .ok "null"
  | .bool true => .ok "true"
  | .bool false => .ok "false"
  | .int n => if (Value.int n).exceedsDigits then .error Value.tooManyDigits else .ok (toString n)
  | .float x => .ok (floatText x)
  | .list items => nested style level do
      .ok (enclose style level "[" "]" (<- writeItems style (level + 1) items))
  | .tuple items => nested style level do
      .ok (enclose style level "[" "]" (<- writeItems style (level + 1) items))
  | .dict entries => nested style level do
      let members <- arranged style (writeMembers style (level + 1) entries)
      let members <- members.mapM id
      .ok (enclose style level "\x7b" "\x7d"
        (members.map fun (name, text) => quote style.ascii name ++ style.colon ++ text))
  | .object _ (.foreign _) => .error circular
  | .object _ content => writeAt style level content
  | v =>
      if style.lenient then nested style level do .ok (quote style.ascii (<- v.textOf))
      else .error (.badArgument s!"Object of type {v.plainKind} is not JSON serializable")

/-- The texts of the items of an array. -/
def writeItems (style : Style) (level : Nat) : List Value -> Outcome (List String)
  | [] => .ok []
  | x :: rest => do
      let s <- writeAt style level x
      .ok (s :: (<- writeItems style level rest))

/-- The keys of the members of an object, with their names and texts where they have them. -/
def writeMembers (style : Style) (level : Nat) :
    List (Value × Value) -> List (Value × Outcome (String × String))
  | [] => []
  | (k, v) :: rest =>
      let member : Outcome (String × String) := do
        let name <- keyText k
        .ok (name, (<- writeAt style level v))
      (k, member) :: writeMembers style level rest

end

/-- The text of a value as a document. -/
def write (style : Style) (v : Value) : Outcome String :=
  writeAt style 0 v

end Json

end Workflow
