import Workflow.Template.Access
import Workflow.Text.Entity
import Workflow.Value.Replacement

/-!
# Methods of texts in templates

Texts fill their replacement fields under the rules by which templates read parts of
values.  The methods of markup give markup, and escape what is put into it.
-/

namespace Workflow

namespace Template

/-- The plain text of a value, which has to exist. -/
def plainText (v : Value) : Outcome String :=
  v.textOf

/-- A text that is safe inside markup. -/
def escaped (v : Value) : Outcome String :=
  match v with
  | .markup s => .ok s
  | v => do .ok (Value.escapeMarkup (<- plainText v))

/-- A text of the kind of another: text made from markup is markup. -/
def likeText (v : Value) (s : String) : Value :=
  match v with
  | .markup _ => .markup s
  | _ => .str s

/-! ## Replacement fields -/

/-- A value written by a format specification. -/
def writtenBy (v : Value) (spec : String) : Outcome String := do
  Value.strictUse v
  Value.format v spec

/-- A value written into markup by a format specification. -/
def writtenIntoMarkup (v : Value) (spec : String) : Outcome String :=
  match v with
  | .markup s =>
      if spec.isEmpty then .ok s
      else .error (.badValue "Unsupported format specification for Markup.")
  | v => do .ok (Value.escapeMarkup (<- writtenBy v spec))

/-- How the fields of a text find their values. -/
def fieldRules (text : Value) (positional : List Value) (named : String -> Option Value) :
    Value.FieldRules where
  positional := positional
  named := named
  byFirst := false
  absent := fun _ => .indexRange "tuple"
  mixed := fun _ =>
    .badValue "cannot switch from manual field specification to automatic field numbering"
  partByName := partByName
  partByKey := partByKey
  write := match text with
    | .markup _ => writtenIntoMarkup
    | _ => writtenBy

/-- Put arguments into the fields of a text. -/
def formatText (text : Value) (s : String) (a : Value.Arguments) : Outcome Value := do
  let rules := fieldRules text a.positional fun n => a.named.lookup n
  .ok (likeText text (<- Value.replaceFields rules s))

/-- Put the entries of a mapping into the fields of a text. -/
def formatMapping (text : Value) (s : String) (a : Value.Arguments) : Outcome Value := do
  if !a.named.isEmpty then .error (.badArgument "format_map() takes no keyword arguments")
  match a.positional with
  | [mapping] => do
      let named (n : String) : Option Value :=
        match Value.subscript mapping (.str n) with
        | .ok v => some v
        | .error _ => none
      .ok (likeText text (<- Value.replaceFields (fieldRules text [] named) s))
  | vs =>
      .error (.badArgument s!"format_map() takes exactly one argument ({vs.length} given)")

/-! ## Markup -/

/-- Remove what stands between two marks, as often as both occur.  The fuel is the length. -/
def removeBetween (opening closing : List Char) : Nat -> List Char -> List Char
  | 0, cs => cs
  | fuel + 1, cs =>
      match Text.cutAt? opening cs with
      | none => cs
      | some (front, rest) =>
          match Text.cutAt? closing (opening ++ rest) with
          | none => cs
          | some (_, after) => removeBetween opening closing fuel (front ++ after)

/-- A text without its tags, its white space made single blanks and its references replaced. -/
def withoutTags (cs : List Char) : List Char :=
  let cs := removeBetween "<!--".toList "-->".toList cs.length cs
  let cs := removeBetween ['<'] ['>'] cs.length cs
  let cs := List.intercalate [' '] (Text.words cs)
  Text.withoutReferences cs.length cs

/-- Texts as markup, also those in a list or a tuple. -/
def asMarkup (v : Value) : Value :=
  let marked (x : Value) : Value :=
    match x with
    | .str s => .markup s
    | x => x
  match v with
  | .list xs => .list (xs.map marked)
  | .tuple xs => .tuple (xs.map marked)
  | v => marked v

/-- Methods of markup that give markup. -/
def markingMethods : List String :=
  ["capitalize", "title", "lower", "upper", "replace", "ljust", "rjust", "center", "lstrip",
    "rstrip", "strip", "translate", "expandtabs", "swapcase", "zfill", "casefold",
    "removeprefix", "removesuffix", "split", "rsplit", "splitlines", "partition", "rpartition"]

/-- Methods of markup whose second argument is escaped. -/
def escapingMethods : List String :=
  ["replace", "ljust", "rjust", "center"]

/-- Arguments the second of which is escaped. -/
def escapedSecond (a : Value.Arguments) : Outcome Value.Arguments := do
  match a.positional with
  | x :: y :: rest => do .ok ⟨x :: .str (<- escaped y) :: rest, a.named⟩
  | _ => .ok a

/-- Call a method of markup. -/
def callMarkup (s name : String) (a : Value.Arguments) : Outcome Value := do
  let plain (a : Value.Arguments) : Outcome Value := do
    .ok (<- Value.applyMethod (.str s) name a).1
  match name, a.positional with
  | "striptags", _ => do
      a.nothing "Markup.striptags"
      .ok (.str (String.ofList (withoutTags s.toList)))
  | "unescape", _ => do
      a.nothing "Markup.unescape"
      .ok (.str (String.ofList (Text.withoutReferences s.length s.toList)))
  | "escape", v :: _ => do .ok (.markup (<- escaped v))
  | "format", _ => formatText (.markup s) s a
  | "format_map", _ => formatMapping (.markup s) s a
  | "join", [v] => do
      let parts <- (<- v.items).mapM escaped
      .ok (.markup (s.intercalate parts))
  | name, _ =>
      if markingMethods.contains name then do
        let a <- if escapingMethods.contains name then escapedSecond a else pure a
        .ok (asMarkup (<- plain a))
      else plain a

end Template

end Workflow
