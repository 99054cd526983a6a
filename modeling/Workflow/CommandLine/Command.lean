import Workflow.CommandLine.Arguments

/-!
# Commands

What the arguments ask for: to run a definition, to check one, to list the definitions
of a folder, or to say the version.
-/

namespace Workflow

namespace CommandLine

/-- What running a definition needs. -/
structure RunRequest where
  path : String
  inputs : List String
  context : List String
  executors : List String
  jsonOnly : Bool
  deriving Repr

/-- What the arguments ask for. -/
inductive Command where
  | version
  | help
  | run (r : RunRequest)
  | validate (path : String)
  | list (path : String)
  /-- The arguments cannot be understood. -/
  | misused
  deriving Repr

/-- The options before the command. -/
def globalRules : List OptionRule :=
  [⟨["--version", "-v"], false⟩, ⟨["--verbose", "-V"], false⟩, ⟨["--help"], false⟩]

/-- The options of running. -/
def runRules : List OptionRule :=
  [⟨["--input", "-i"], true⟩, ⟨["--context", "-c"], true⟩, ⟨["--executor", "-e"], true⟩,
    ⟨["--json"], false⟩, ⟨["--help"], false⟩]

/-- The options of commands that have none of their own. -/
def plainRules : List OptionRule :=
  [⟨["--help"], false⟩]

/-- The arguments of a command with one operand. -/
def oneOperand (rules : List OptionRule) (args : List String) (make : Parsed -> String -> Command) :
    Command :=
  match readArguments? rules true args with
  | none => .misused
  | some p =>
      if p.has "--help" then .help
      else
        match p.operands with
        | [path] => make p path
        | _ => .misused

/-- The command of a name with its arguments. -/
def commandOf (name : String) (args : List String) : Command :=
  match name with
  | "run" =>
      oneOperand runRules args fun p path =>
        .run ⟨path, p.valuesOf "--input", p.valuesOf "--context", p.valuesOf "--executor",
          p.has "--json"⟩
  | "validate" => oneOperand plainRules args fun _ path => .validate path
  | "list" => oneOperand plainRules args fun _ path => .list path
  | _ => .misused

/-- What the arguments ask for, and whether they ask for details. -/
def Command.ofArguments (args : List String) : Command × Bool :=
  match readArguments? globalRules false args with
  | none => (.misused, false)
  | some p =>
      let verbose := p.has "--verbose"
      match p.given.find? fun g => g.key != "--verbose" with
      | some g => (if g.key == "--version" then .version else .help, verbose)
      | none =>
          match p.operands with
          | [] => (.misused, verbose)
          | name :: rest => (commandOf name rest, verbose)

end CommandLine

end Workflow
