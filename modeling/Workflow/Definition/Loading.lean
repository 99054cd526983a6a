import Workflow.Definition.Rules
import Workflow.Definition.Schema
import Workflow.Environment
import Workflow.Files
import Workflow.Json.Reading
import Workflow.Yaml.Document

/-!
# Loading definitions

A definition is written as JSON or YAML.  Its text is parsed, the environment is
substituted, the rules are checked, and the fields are read.  The first of these that
fails gives the error, which names the source.
-/

namespace Workflow

/-- How a definition is written. -/
inductive Format where
  | json
  | yaml
  deriving Repr, DecidableEq

namespace Format

/-- The format of a text: a text that begins with an object is JSON. -/
def detect (content : String) : Format :=
  if (content.toList.dropWhile Text.isBlank).head? == some '{' then json else yaml

/-- The format of files with an ending. -/
def ofSuffix? (suffix : String) : Option Format :=
  match String.ofList (Text.lower suffix.toList) with
  | ".yaml" => some yaml
  | ".yml" => some yaml
  | ".json" => some json
  | _ => none

end Format

namespace Loading

/-- What a source is called in messages. -/
def label (source : Option String) : String :=
  match source with
  | some s => if s.isEmpty then "<string>" else s
  | none => "<string>"

/-! ## Parsing -/

/-- A JSON document; a blank text is no value. -/
def parseJson (source content : String) : Except Raised Value :=
  if (Text.strip content).isEmpty then .ok .null
  else
    match Json.read content with
    | .ok v => .ok v
    | .error (.refused f) => .error (.fault f)
    | .error (.malformed cause place) =>
        let (line, column) := Json.lineColumn content place
        .error (.error (Error.load
          s!"Invalid JSON syntax in '{source}' at line {line}, column {column}: {cause.wording}"
          none (some source) (some "syntax")))

/-- A YAML document. -/
def parseYaml (source content : String) : Except Raised Value :=
  match Yaml.read content with
  | .ok v => .ok v
  | .error (.value f) => .error (.fault f)
  | .error (.malformed mark) =>
      let place := match mark with
        | some m => s!" at line {m.line + 1}, column {m.column + 1}"
        | none => ""
      .error (.error (Error.load s!"Invalid YAML syntax in '{source}'{place}: invalid yaml" none
        (some source) (some "syntax")))

/-- The entries of the dictionary a text is. -/
def parse (format : Option Format) (source content : String) :
    Except Raised (List (Value × Value)) := do
  let v <- match format.getD (Format.detect content) with
    | .json => parseJson source content
    | .yaml => parseYaml source content
  match v with
  | .dict entries => .ok entries
  | .null =>
      .error (.error (Error.load s!"Empty workflow definition: {source}"
        (some "Add a workflow definition with a name and steps.") (some source) none))
  | v =>
      .error (.error (Error.load
        s!"Invalid workflow format in '{source}': expected a mapping, got {v.plainKind}"
        (some "Ensure the document is a mapping with 'name' and 'steps' keys.")
        (some source) none))

/-! ## Reading the parsed definition -/

/-- An error whose source is known. -/
def withSource (source : String) (e : Error) : Error :=
  match e.kind with
  | .load _ rule => { e with kind := .load (.str source) rule }
  | _ => e

/-- The error of a definition whose fields cannot be read. -/
def schemaError (source : String) (problems : List Problem) : Error :=
  let lines := "\n".intercalate (problems.map Problem.line)
  Error.load (s!"Workflow validation failed in '{source}':\n" ++ lines)
    (some
      "Check the workflow definition against the schema. Ensure all fields have valid values.")
    (some source) (some "schema")

/-- A definition that was loaded, or what went wrong. -/
structure Loaded where
  /-- What the source is called. -/
  source : String
  /-- What is odd about the definition; `none` when the rules were not passed. -/
  warnings : Option (List String)
  result : Except Raised Definition

namespace Loaded

/-- Loading stopped before the rules were passed. -/
def stopped (source : String) (r : Raised) : Loaded :=
  ⟨source, none, .error r⟩

/-- The lines that are logged. -/
def logLines (l : Loaded) : List String :=
  (l.warnings.getD []).map fun w => s!"{l.source}: {w}"

end Loaded

/-- Entries with the source put in its place, when it is given. -/
def withSourcePath (source : Option String) (entries : List (Value × Value)) :
    List (Value × Value) :=
  match source with
  | some s => Value.putField entries "source_path" (.str s)
  | none => entries

/-- The definition of entries in which the environment was substituted. -/
def ofResolved (source : Option String) (entries : List (Value × Value)) : Loaded :=
  match Rules.check (some (label source)) entries with
  | .error r => .stopped (label source) r
  | .ok warnings =>
      ⟨label source, some warnings,
        (Schema.definition (.dict (withSourcePath source entries))).mapError
          fun problems => .error (schemaError (label source) problems)⟩

/-- The definition that a value is. -/
def ofValue (env : Environment) (source : Option String) (v : Value) : Loaded :=
  match v with
  | .dict entries =>
      match Environment.substituteEntries env entries with
      | .error e => .stopped (label source) (.error (withSource (label source) e))
      | .ok entries => ofResolved source entries
  | v =>
      .stopped (label source) (.error (Error.load
        s!"Workflow definition must be a mapping, got {v.plainKind}" none
        (some (label source)) (some "structure")))

/-- The definition that a text holds. -/
def ofText (env : Environment) (format : Option Format) (source : Option String)
    (content : String) : Loaded :=
  match parse format (label source) content with
  | .error r => .stopped (label source) r
  | .ok entries => ofValue env source (.dict entries)

/-! ## Files -/

/-- The bytes of the file of a definition and how it is written. -/
def openFile (files : Files) (path : Path) : Except Error (List UInt8 × Format) :=
  let source := path.text
  match files.find? path with
  | none =>
      .error (Error.load s!"Workflow file not found: {source}"
        (some "Check that the file path is correct and the file exists.") (some source) none)
  | some .folder =>
      .error (Error.load s!"Path is not a file: {source}"
        (some "Provide a path to a workflow file, not a directory.") (some source) none)
  | some (.file data) =>
      match Format.ofSuffix? path.suffix with
      | some format => .ok (data, format)
      | none =>
          let shown := if path.suffix.isEmpty then "<none>" else path.suffix
          .error (Error.load s!"Unsupported file type: {shown}"
            (some "Workflow files must end in .yaml, .yml or .json") (some source) none)

/-- The definition that a file holds. -/
def ofFile (env : Environment) (files : Files) (path : Path) : Loaded :=
  match openFile files path with
  | .error e => .stopped path.text (.error e)
  | .ok (data, format) =>
      match Files.textOf data with
      | .error f => .stopped path.text (.fault f)
      | .ok content => ofText env (some format) (some path.text) content

end Loading

end Workflow
