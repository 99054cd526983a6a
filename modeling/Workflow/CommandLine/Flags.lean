import Workflow.Executor.Reference
import Workflow.Json.Reading

/-!
# Flags of the command line

Values given as `name=value` are read as the values they look like; executors are given
as `type=module:attribute`.
-/

namespace Workflow

namespace CommandLine

/-- Why a flag cannot be used. -/
inductive FlagFault where
  /-- It is not written as it should be. -/
  | usage (message : String)
  | raised (r : Raised)

/-- The number that a text stands for: a double when it has a point. -/
def numberOf? (s : String) : Option Value :=
  if s.toList.contains '.' then (Number.readFloat? s).map .float
  else
    match Number.readInt 10 s with
    | .value n => some (.int n)
    | _ => none

/-- The value that a text looks like: a truth value, nothing, JSON, a number, or the text. -/
def valueOf (s : String) : Outcome Value :=
  match String.ofList (Text.lower s.toList) with
  | "true" => .ok (.bool true)
  | "false" => .ok (.bool false)
  | "null" => .ok .null
  | _ =>
      let plain := (numberOf? s).getD (.str s)
      if s.startsWith "[" || s.startsWith "\x7b" then
        match Json.read s with
        | .ok v => .ok v
        | .error (.refused f) => .error f
        | .error (.malformed ..) => .ok plain
      else .ok plain

/-- The trimmed texts before and after the first equals sign. -/
def halves? (s : String) : Option (String × String) :=
  (Text.cutAt? ['='] s.toList).map fun (front, back) =>
    (Text.strip (String.ofList front), Text.strip (String.ofList back))

/-- Add the value of one flag to those before it. -/
def addInput (entries : List (Value × Value)) (flag : String) :
    Except FlagFault (List (Value × Value)) :=
  match halves? flag with
  | none =>
      .error (.usage s!"Invalid input format: '{flag}'. Expected format: name=value")
  | some (name, text) =>
      if name.isEmpty then .error (.usage s!"Empty input name in: '{flag}'")
      else
        match valueOf text with
        | .ok v => .ok (Value.putField entries name v)
        | .error f => .error (.raised (.fault f))

/-- The values of flags by name; the last value of a name counts. -/
def inputs (flags : List String) : Except FlagFault (List (Value × Value)) :=
  flags.foldlM addInput []

/-- Add the executor of one flag to those before it. -/
def addExecutor {σ : Type} (modules : Modules σ) (plugins : Table (Plugin σ)) (flag : String) :
    Except FlagFault (Table (Plugin σ)) :=
  match halves? flag with
  | none =>
      .error (.usage
        s!"Invalid executor format: '{flag}'. Expected format: type=module:attribute")
  | some (type, reference) =>
      if type.isEmpty then .error (.usage s!"Empty step type in: '{flag}'")
      else
        match modules.load reference with
        | .ok p => .ok (plugins.put type p)
        | .error r => .error (.raised r)

/-- The executors of flags by type; the last executor of a type counts. -/
def executors {σ : Type} (modules : Modules σ) (flags : List String) :
    Except FlagFault (Table (Plugin σ)) :=
  flags.foldlM (addExecutor modules) []

end CommandLine

end Workflow
