import Workflow.Definition.Basic

/-!
# Definitions as values

A definition written out as a dictionary of all its fields, defaults included, with the
fields a step keeps for executors beside its own.
-/

namespace Workflow

/-- The fields of a declaration of an input. -/
def Input.toValue (i : Input) : Value :=
  .record [("type", .str i.type.name), ("required", .bool i.required), ("default", i.default),
    ("description", .ofText? i.description)]

/-- The fields of a retry block. -/
def RetryPolicy.toValue (r : RetryPolicy) : Value :=
  .record [("attempts", .int r.attempts), ("delay", .ofFloat? r.delay),
    ("max_delay", .ofFloat? r.maxDelay), ("backoff", .float r.backoff)]

mutual

/-- The fields of a step, and those it keeps for executors. -/
def Step.toValue : Step -> Value
  | ⟨id, type, description, config, onError, retry, timeout, condition, ifTrue, ifFalse, extra⟩ =>
      .record ([("id", .str id), ("type", .str type), ("description", .ofText? description),
        ("config", config), ("on_error", .str onError.name),
        ("retry", match retry with
          | some r => r.toValue
          | none => .null),
        ("timeout", .ofFloat? timeout), ("condition", condition),
        ("if_true", Step.branchValue ifTrue), ("if_false", Step.branchValue ifFalse)] ++ extra)

/-- A branch as a list, or nothing. -/
def Step.branchValue : Option (List Step) -> Value
  | none => .null
  | some steps => .list (Step.toValues steps)

/-- The fields of steps. -/
def Step.toValues : List Step -> List Value
  | [] => []
  | s :: rest => s.toValue :: Step.toValues rest

end

/-- The fields of a definition. -/
def Definition.toValue (d : Definition) : Value :=
  .record [("name", .str d.name), ("version", .ofText? d.version),
    ("description", .ofText? d.description),
    ("inputs", .record (d.inputs.map fun (n, i) => (n, i.toValue))),
    ("outputs", match d.outputs with
      | some outputs => .record outputs
      | none => .null),
    ("trigger", d.trigger), ("steps", .list (Step.toValues d.steps)),
    ("source_path", .ofText? d.sourcePath),
    ("loaded_at", match d.loadedAt with
      | some t => .datetime t
      | none => .null)]

end Workflow
