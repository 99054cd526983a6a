import Workflow.Executor.Basic
import Workflow.Text.Search

/-!
# References to executors

A reference names a module and, after a colon, a path of attributes in it.  What the
path leads to must be usable as an executor.
-/

namespace Workflow

/-- Something that a module holds: how it is used as an executor, and its attributes. -/
inductive Member (σ : Type) where
  | mk (use : Candidate σ) (members : List (String × Member σ))

/-- The modules that can be imported, with what they hold. -/
abbrev Modules (σ : Type) := Table (Table (Member σ))

namespace Modules

variable {σ : Type}

/-- The member at the end of a path of attributes. -/
def descend? (members : Table (Member σ)) : List String -> Option (Member σ)
  | [] => none
  | name :: rest =>
      match members.get? name with
      | none => none
      | some (.mk use inner) =>
          match rest with
          | [] => some (.mk use inner)
          | rest => descend? inner rest

/-- The error of a reference that is not written as one. -/
def malformed (reference : String) : Error :=
  Error.general s!"Invalid executor reference: '{reference}'"
    (some "Use the format 'package.module:attribute'")

/-- Why a module cannot be imported: its first part is unknown, or holds no modules. -/
def importReason (modules : Modules σ) (name : String) : String :=
  let parts := (Text.splitAll ['.'] name.length name.toList).map String.ofList
  let front := parts.headD ""
  let quoted (s : String) : String := (Value.str s).literal
  if modules.has front then
    let inner := ".".intercalate (parts.take 2)
    s!"No module named {quoted inner}; {quoted front} is not a package"
  else s!"No module named {quoted front}"

/-- The error of a module that cannot be imported. -/
def unknown (modules : Modules σ) (name : String) : Error :=
  let reason := modules.importReason name
  Error.general s!"Could not import executor module '{name}': {reason}"
    (some "Check that the module is installed and on the Python path")

/-- The executor that a reference names. -/
def load (modules : Modules σ) (reference : String) : Except Raised (Plugin σ) :=
  match Text.cutAt? [':'] reference.toList with
  | none => .error (.error (malformed reference))
  | some (front, back) =>
      let name := String.ofList front
      let path := String.ofList back
      if front.isEmpty || back.isEmpty then .error (.error (malformed reference))
      else if front.head? == some '.' then
        let quoted := (Value.str name).literal
        .error (.fault (.badArgument
          s!"the 'package' argument is required to perform a relative import for {quoted}"))
      else
        match modules.get? name with
        | none => .error (.error (modules.unknown name))
        | some members =>
            match descend? members ((Text.splitAll ['.'] path.length back).map String.ofList) with
            | none =>
                .error (.error (Error.general
                  s!"Module '{name}' has no attribute '{path}'" none))
            | some (.mk use _) =>
                match use.accept with
                | .ok p => .ok p
                | .error f =>
                    let reason := f.message
                    .error (.error (Error.general
                      s!"Executor reference '{reference}' is not usable: {reason}" none))

end Modules

end Workflow
