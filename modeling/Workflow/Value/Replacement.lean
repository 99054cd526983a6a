import Workflow.Value.Access

/-!
# Texts with replacement fields

A text in which fields between braces name the arguments that take their place, each
with an optional conversion and an optional format specification.
-/

namespace Workflow

namespace Value

/-- A stretch of a format text. -/
inductive FormatPart where
  | literal (c : Char)
  | field (name : List Char) (conversion : Option Char) (spec : List Char)

/-- What ends the name of a field. -/
inductive NameEnd where
  | closed
  | conversion
  | spec

/-- The name of a field, what ends it, and what follows; brackets hide what is in them. -/
def spanFieldName (bracketed : Bool) : List Char -> Outcome (List Char × NameEnd × List Char)
  | [] => .error (.badValue "expected '\x7d' before end of string")
  | c :: rest =>
      if bracketed then go c (c != ']') rest
      else if c == '\x7b' then .error (.badValue "unexpected '\x7b' in field name")
      else if c == '\x7d' then .ok ([], .closed, rest)
      else if c == '!' then .ok ([], .conversion, rest)
      else if c == ':' then .ok ([], .spec, rest)
      else go c (c == '[') rest
where
  /-- Keep a character and go on. -/
  go (c : Char) (bracketed : Bool) (rest : List Char) :
      Outcome (List Char × NameEnd × List Char) := do
    let (name, stop, after) <- spanFieldName bracketed rest
    .ok (c :: name, stop, after)

/-- A format specification up to the brace that closes its field, and what follows. -/
def spanSpec (depth : Nat) : List Char -> Outcome (List Char × List Char)
  | [] => .error (.badValue "unmatched '\x7b' in format spec")
  | c :: rest => do
      match depth, c with
      | 0, '\x7d' => .ok ([], rest)
      | d + 1, '\x7d' => do
          let (spec, after) <- spanSpec d rest
          .ok (c :: spec, after)
      | d, c => do
          let (spec, after) <- spanSpec (if c == '\x7b' then d + 1 else d) rest
          .ok (c :: spec, after)

/-- A field after its opening brace, and what follows it. -/
def readField (cs : List Char) : Outcome (FormatPart × List Char) := do
  let (name, stop, rest) <- spanFieldName false cs
  match stop with
  | .closed => .ok (.field name none [], rest)
  | .spec => do
      let (spec, after) <- spanSpec 0 rest
      .ok (.field name none spec, after)
  | .conversion =>
      match rest with
      | [] => .error (.badValue "end of string while looking for conversion specifier")
      | [_] => .error (.badValue "unmatched '\x7b' in format spec")
      | c :: '\x7d' :: after => .ok (.field name (some c) [], after)
      | c :: ':' :: rest => do
          let (spec, after) <- spanSpec 0 rest
          .ok (.field name (some c) spec, after)
      | _ => .error (.badValue "expected ':' after conversion specifier")

/-- The first part of a format text, and what follows it; `none` at its end. -/
def nextPart? : List Char -> Outcome (Option (FormatPart × List Char))
  | [] => .ok none
  | '\x7b' :: '\x7b' :: rest => .ok (some (.literal '\x7b', rest))
  | '\x7d' :: '\x7d' :: rest => .ok (some (.literal '\x7d', rest))
  | '\x7d' :: _ => .error (.badValue "Single '\x7d' encountered in format string")
  | ['\x7b'] => .error (.badValue "Single '\x7b' encountered in format string")
  | '\x7b' :: rest => do .ok (some (<- readField rest))
  | c :: rest => .ok (some (.literal c, rest))

/-- The steps of a field after its first part: attributes and keys. -/
def fieldSteps : Nat -> List Char -> Outcome (List (Bool × String))
  | 0, _ => .ok []
  | _ + 1, [] => .ok []
  | fuel + 1, '.' :: rest =>
      let name := rest.takeWhile fun c => c != '.' && c != '['
      if name.isEmpty then .error (.badValue "Empty attribute in format string")
      else do
        .ok ((true, String.ofList name) :: (<- fieldSteps fuel (rest.drop name.length)))
  | fuel + 1, '[' :: rest =>
      match rest.dropWhile (· != ']') with
      | [] => .error (.badValue "Missing ']' in format string")
      | _ :: after =>
          let key := rest.takeWhile (· != ']')
          if key.isEmpty then .error (.badValue "Empty attribute in format string")
          else do .ok ((false, String.ofList key) :: (<- fieldSteps fuel after))
  | _ + 1, _ => .error (.badValue "Only '.' or '[' may follow ']' in format field specifier")

/-- Whether a text is a number of ASCII digits. -/
def isIndex (s : String) : Bool :=
  !s.isEmpty && s.toList.all Char.isDigit

/-- The key a text in brackets stands for. -/
def fieldKey (s : String) : Value :=
  if isIndex s then .int ((Number.digitsValue? 10 s.toList).getD 0 : Nat) else .str s

/-- How fields find their values, and how values are written. -/
structure FieldRules where
  positional : List Value
  named : String -> Option Value
  /-- Whether a field is numbered when only the first part of its name is left out. -/
  byFirst : Bool
  /-- The fault of a number that no argument has. -/
  absent : Nat -> Fault
  /-- The fault of numbering some fields and not others, the second way being by hand. -/
  mixed : Bool -> Fault
  partByName : Value -> String -> Outcome Value
  partByKey : Value -> Value -> Outcome Value
  write : Value -> String -> Outcome String

/-- The value a field names. -/
def FieldRules.value (r : FieldRules) (first : String) (steps : List Char) : Outcome Value := do
  let steps <- fieldSteps steps.length steps
  let base <- match fieldKey first with
    | .int n =>
        match r.positional[n.toNat]? with
        | some v => .ok v
        | none => .error (r.absent n.toNat)
    | key =>
        match r.named first with
        | some v => .ok v
        | none => .error (.keyAbsent key.literal)
  steps.foldlM (fun v (byName, key) =>
    if byName then r.partByName v key else r.partByKey v (fieldKey key)) base

/-- Convert a value to a text as a field asks for. -/
def convertField (v : Value) : Option Char -> Outcome Value
  | none => .ok v
  | some 's' => do .ok (.str (<- v.textOf))
  | some 'r' => do .ok (.str (<- v.literalOf))
  | some 'a' => do .ok (.str (Text.asciiOnly (<- v.literalOf)))
  | some c => .error (.badValue s!"Unknown conversion specifier {c}")

/-- How fields without a name are numbered: the next number, or by hand. -/
abbrev Numbering := Option Nat

/-- The first part of a field's name, with the number a field without one is given. -/
def numbered (r : FieldRules) (numbering : Numbering) (first : String) (alone : Bool) :
    Outcome (String × Numbering) :=
  if first.isEmpty && (alone || r.byFirst) then
    match numbering with
    | some n => .ok (toString n, some (n + 1))
    | none => .error (r.mixed false)
  else if isIndex first && (alone || r.byFirst) then
    match numbering with
    | some (_ + 1) => .error (r.mixed true)
    | _ => .ok (first, none)
  else .ok (first, numbering)

/--
The text of a format text.  The depth bounds how deeply specifications hold fields, and
the fuel is the length of the text.
-/
def fillFields (r : FieldRules) : Nat -> Nat -> Numbering -> List Char ->
    Outcome (String × Numbering)
  | 0, _, _, _ => .error (.badValue "Max string recursion exceeded")
  | _ + 1, 0, numbering, _ => .ok ("", numbering)
  | depth + 1, fuel + 1, numbering, cs => do
      match <- nextPart? cs with
      | none => .ok ("", numbering)
      | some (.literal c, rest) => do
          let (out, numbering) <- fillFields r (depth + 1) fuel numbering rest
          .ok (c.toString ++ out, numbering)
      | some (.field name conversion spec, rest) => do
          let first := name.takeWhile fun c => c != '.' && c != '['
          let steps := name.drop first.length
          let (first, numbering) <- numbered r numbering (String.ofList first) steps.isEmpty
          let v <- convertField (<- r.value first steps) conversion
          let (spec, numbering) <- fillFields r depth spec.length numbering spec
          let written <- r.write v spec
          let (out, numbering) <- fillFields r (depth + 1) fuel numbering rest
          .ok (written ++ out, numbering)

/-- Put arguments into the fields of a text. -/
def replaceFields (r : FieldRules) (s : String) : Outcome String := do
  .ok (<- fillFields r 3 s.length (some 0) s.toList).1

end Value

end Workflow
