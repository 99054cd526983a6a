import Workflow.Error
import Workflow.Text.Quoted

/-!
# Described failures

A failure can be described by data: the name of its class, the arguments it is made with,
and what is assigned to it afterwards.  Making it may fail by itself, when the class does
not take the arguments.
-/

namespace Workflow

/-- A failure described by data. -/
structure Description where
  kind : String
  positional : List Value
  named : List (String × Value)
  /-- What is assigned once the failure is made, by name. -/
  assigned : List (String × Value)

namespace Description

/-! ## Arguments -/

/-- The parameters of a class of errors; the first one has no default. -/
structure Signature where
  /-- The class whose parameters they are. -/
  owner : String
  /-- Parameters that are given by position or by name. -/
  positional : List String
  /-- Parameters that are given by name. -/
  named : List String
  /-- Those of the named ones that have no default. -/
  required : List String

/-- The parameters of the classes of the engine. -/
def signature? : String -> Option Signature
  | "StepflowError" => some ⟨"StepflowError", ["message", "suggestion"], [], []⟩
  | "ExecutionError" => some ⟨"StepflowError", ["message", "suggestion"], [], []⟩
  | "LoadError" => some ⟨"LoadError", ["message", "suggestion", "source", "rule"], [], []⟩
  | "ValidationError" => some ⟨"ValidationError",
      ["message", "suggestion", "input_name", "expected_type", "actual_type"], [], []⟩
  | "UnknownStepTypeError" => some ⟨"UnknownStepTypeError",
      ["step_type", "step_id", "suggestion"], [], []⟩
  | "ExecutorError" => some ⟨"ExecutorError",
      ["message", "suggestion", "step_id", "step_type", "original_error", "attempts"], [], []⟩
  | "ExpressionError" => some ⟨"ExpressionError",
      ["message", "suggestion", "expression", "missing_reference"], [], []⟩
  | "TemplateError" => some ⟨"TemplateError",
      ["message", "suggestion", "undefined_variable"], [], []⟩
  | "StepTimeoutError" => some ⟨"StepTimeoutError", ["message"],
      ["timeout_seconds", "step_id", "step_type", "suggestion"], ["timeout_seconds"]⟩
  | "WorkflowNotFoundError" => some ⟨"WorkflowNotFoundError", ["name", "suggestion"], [], []⟩
  | "ExecutionNotFoundError" => some ⟨"ExecutionNotFoundError",
      ["execution_id", "suggestion"], [], []⟩
  | _ => none

/-- The fault of a call that does not fit a signature. -/
def misfit (s : Signature) (complaint : String) : Outcome α :=
  .error (.badArgument s!"{s.owner}.__init__() {complaint}")

/-- Refuse a named argument that there is no parameter for, or that is given by position too. -/
def checkNamed (s : Signature) (count : Nat) : List (String × Value) -> Outcome Unit
  | [] => .ok ()
  | (name, _) :: rest =>
      if !(s.positional ++ s.named).contains name then
        misfit s s!"got an unexpected keyword argument '{name}'"
      else if (s.positional.take count).contains name then
        misfit s s!"got multiple values for argument '{name}'"
      else checkNamed s count rest

/-- The complaint on more arguments than there are parameters; the receiver counts as one. -/
def surplus (s : Signature) (count : Nat) (named : List (String × Value)) : String :=
  let most := s.positional.length + 1
  let range := if s.positional.length = 1 then s!"{most}" else s!"from 2 to {most}"
  let alone := (named.filter fun (n, _) => s.named.contains n).length
  let given := if alone = 0 then s!"{count + 1} were given"
    else
      let plural := if alone = 1 then "" else "s"
      s!"{count + 1} positional arguments (and {alone} keyword-only argument{plural}) were given"
  s!"takes {range} positional arguments but {given}"

/-- The arguments of a call under the names of their parameters. -/
def bind (s : Signature) (d : Description) : Outcome (List (String × Value)) := do
  let count := d.positional.length
  checkNamed s count d.named
  if s.positional.length < count then misfit s (surplus s count d.named)
  else
    let bound := s.positional.zip d.positional ++ d.named
    let absent (names : List String) : List String :=
      names.filter fun n => (bound.lookup n).isNone
    match absent (s.positional.take 1), absent s.required with
    | first :: _, _ => misfit s s!"missing 1 required positional argument: '{first}'"
    | [], name :: _ => misfit s s!"missing 1 required keyword-only argument: '{name}'"
    | [], [] => .ok bound

/-! ## Errors of the engine -/

/-- The attribute of messages from which advice is chosen; a message without it is refused. -/
def checkWording (message : Value) : Outcome Unit :=
  match message with
  | .str _ => .ok ()
  | .bytes _ => .error (.badArgument "a bytes-like object is required, not 'str'")
  | v => .error (.noAttribute v.kind "lower")

/-- Refuse seconds that cannot be written in their general form. -/
def checkSeconds (seconds : Value) : Outcome Unit := do
  let _ <- Value.format seconds "g"
  .ok ()

/-- The error of the engine that bound arguments describe. -/
def engineError (kind : String) (bound : List (String × Value)) : Outcome Error := do
  let get (name : String) : Value := (bound.lookup name).getD .null
  let message := get "message"
  let advice := get "suggestion"
  let attempts := (bound.lookup "attempts").getD (.int 1)
  match kind with
  | "LoadError" => do
      if advice.isNull then checkWording message
      .ok (.make (.load (get "source") (get "rule")) message advice)
  | "ValidationError" =>
      .ok (.make (.validation (get "input_name") (get "expected_type") (get "actual_type"))
        message advice)
  | "UnknownStepTypeError" => .ok (.unknownStepType (get "step_type") (get "step_id") advice)
  | "ExecutorError" =>
      let failure : ExecutorFailure := ⟨get "step_type", .value (get "original_error"), attempts⟩
      .ok { Error.make (.executor failure) message advice with stepId := get "step_id" }
  | "ExpressionError" =>
      let missing := (bound.lookup "missing_reference").getD (.bool false)
      .ok (.make (.expression .plain (get "expression") missing) message advice)
  | "TemplateError" => do
      let undefinedVariable := get "undefined_variable"
      if advice.isNull && !undefinedVariable.truthy then checkWording message
      .ok (.make (.template .plain undefinedVariable) message advice)
  | "StepTimeoutError" => do
      let seconds := get "timeout_seconds"
      if advice.isNull then checkSeconds seconds
      let failure : ExecutorFailure := { ExecutorFailure.plain with stepType := get "step_type" }
      .ok { Error.make (.timeout failure seconds) message advice with stepId := get "step_id" }
  | "WorkflowNotFoundError" => .ok (.workflowNotFound (get "name") advice)
  | "ExecutionNotFoundError" => .ok (.executionNotFound (get "execution_id") advice)
  | "ExecutionError" => .ok (.make .execution message advice)
  | _ => .ok (.make .general message advice)

/-- What only errors of a kind carry, with one part of it assigned. -/
def assignKind (kind : ErrorKind) (name : String) (v : Value) : ErrorKind :=
  let kind := match kind.executor?, name with
    | some f, "step_type" => kind.withExecutor { f with stepType := v }
    | some f, "original_error" => kind.withExecutor { f with original := .value v }
    | some f, "attempts" => kind.withExecutor { f with attempts := v }
    | _, _ => kind
  match kind, name with
  | .load _ rule, "source" => .load v rule
  | .load source _, "rule" => .load source v
  | .validation _ e a, "input_name" => .validation v e a
  | .validation i _ a, "expected_type" => .validation i v a
  | .validation i e _, "actual_type" => .validation i e v
  | .unknownStepType _, "step_type" => .unknownStepType v
  | .expression f _ m, "expression" => .expression f v m
  | .expression f s _, "missing_reference" => .expression f s v
  | .template f _, "undefined_variable" => .template f v
  | .timeout f _, "timeout_seconds" => .timeout f v
  | .workflowNotFound _, "name" => .workflowNotFound v
  | kind, _ => kind

/-- Assign to parts of an error, by name; its message is fixed. -/
def assign (e : Error) : List (String × Value) -> Outcome Error
  | [] => .ok e
  | (name, v) :: rest =>
      match name with
      | "message" => fixed name
      | "error_type" => fixed name
      | "suggestion" => assign { e with suggestion := v } rest
      | "execution_id" => assign { e with executionId := v } rest
      | "step_id" => assign { e with stepId := v } rest
      | name => assign { e with kind := assignKind e.kind name v } rest
where
  /-- The fault of assigning to what is computed. -/
  fixed (name : String) : Outcome Error :=
    let owner := e.kind.name
    .error (.other "AttributeError" s!"property '{name}' of '{owner}' object has no setter")

/-! ## Faults -/

/-- The classes of faults that are known by name. -/
def faultNames : List String :=
  ["ArithmeticError", "AssertionError", "AttributeError", "BaseException", "BlockingIOError",
    "BrokenPipeError", "BufferError", "BytesWarning", "CancelledError", "ChildProcessError",
    "ConnectionAbortedError", "ConnectionError", "ConnectionRefusedError",
    "ConnectionResetError", "DeprecationWarning", "EOFError", "EncodingWarning", "Exception",
    "FileExistsError", "FileNotFoundError", "FloatingPointError", "FutureWarning",
    "GeneratorExit", "ImportError", "ImportWarning", "IndentationError", "IndexError",
    "InterruptedError", "IsADirectoryError", "KeyError", "KeyboardInterrupt", "LookupError",
    "MemoryError", "ModuleNotFoundError", "NameError", "NotADirectoryError",
    "NotImplementedError", "OSError", "OverflowError", "PendingDeprecationWarning",
    "PermissionError", "ProcessLookupError", "RecursionError", "ReferenceError",
    "ResourceWarning", "RuntimeError", "RuntimeWarning", "StopAsyncIteration",
    "StopIteration", "SyntaxError", "SyntaxWarning", "SystemError", "SystemExit", "TabError",
    "TimeoutError", "TypeError", "UnboundLocalError", "UnicodeDecodeError",
    "UnicodeEncodeError", "UnicodeError", "UnicodeTranslateError", "UnicodeWarning",
    "UserWarning", "ValueError", "Warning", "ZeroDivisionError"]

/-- The classes of faults of the operating system. -/
def systemNames : List String :=
  ["OSError", "BlockingIOError", "BrokenPipeError", "ChildProcessError",
    "ConnectionAbortedError", "ConnectionError", "ConnectionRefusedError",
    "ConnectionResetError", "FileExistsError", "FileNotFoundError", "InterruptedError",
    "IsADirectoryError", "NotADirectoryError", "PermissionError", "ProcessLookupError",
    "TimeoutError"]

/-- The class that a fault of the operating system belongs to by its number. -/
def systemName (number : Int) : String :=
  match number with
  | 1 => "PermissionError"
  | 2 => "FileNotFoundError"
  | 3 => "ProcessLookupError"
  | 4 => "InterruptedError"
  | 10 => "ChildProcessError"
  | 11 => "BlockingIOError"
  | 13 => "PermissionError"
  | 17 => "FileExistsError"
  | 20 => "NotADirectoryError"
  | 21 => "IsADirectoryError"
  | 32 => "BrokenPipeError"
  | 103 => "ConnectionAbortedError"
  | 104 => "ConnectionResetError"
  | 108 => "BrokenPipeError"
  | 110 => "TimeoutError"
  | 111 => "ConnectionRefusedError"
  | 114 => "BlockingIOError"
  | 115 => "BlockingIOError"
  | _ => "OSError"

/-- What a fault says that was made with some arguments: a single one, or the tuple of them. -/
def wording : List Value -> String
  | [] => ""
  | [v] => v.text
  | vs => (Value.tuple vs).literal

/-- What a fault of the operating system says: its number, what that means, and the files. -/
def systemWording (arguments : List Value) : String :=
  match arguments with
  | number :: meaning :: more =>
      let front := s!"[Errno {number.text}] {meaning.text}"
      match more with
      | [] => front
      | [file] => if file.isNull then front else s!"{front}: {file.literal}"
      | [file, _] => if file.isNull then front else s!"{front}: {file.literal}"
      | [file, _, second] =>
          if file.isNull then front
          else if second.isNull then s!"{front}: {file.literal}"
          else s!"{front}: {file.literal} -> {second.literal}"
      | _ => wording arguments
  | _ => wording arguments

/-- The fault of the operating system with some arguments. -/
def systemFault (kind : String) (arguments : List Value) : Fault :=
  match kind, arguments with
  | "OSError", .int number :: _ :: _ => .other (systemName number) (systemWording arguments)
  | kind, arguments => .other kind (systemWording arguments)

/-- Refuse an argument at a place that is not of a type. -/
def wantType (place : Nat) (wanted : String) (good : Bool) (v : Value) : Outcome Unit :=
  if good then .ok ()
  else if wanted == "int" then
    .error (.badArgument s!"'{v.kind}' object cannot be interpreted as an integer")
  else if wanted == "bytes" then
    .error (.badArgument s!"a bytes-like object is required, not '{v.kind}'")
  else .error (.badArgument s!"argument {place} must be {wanted}, not {v.kind}")

/-- Refuse another number of arguments. -/
def exactly (count : Nat) (arguments : List Value) : Outcome Unit :=
  if arguments.length = count then .ok ()
  else
    .error (.badArgument s!"function takes exactly {count} arguments ({arguments.length} given)")

/-- What is said about the part of a text or of bytes between two places. -/
def spanWording (one many : String) (shown : Option String) (start stop : Int)
    (reason : String) : String :=
  match if stop = start + 1 then shown else none with
  | some item => s!"{one} {item} in position {start}: {reason}"
  | none => s!"{many} in position {start}-{stop - 1}: {reason}"

/-- The character at a place of a text, as an escape. -/
def escapedAt? (s : String) (start : Int) : Option String :=
  if start < 0 then none
  else (s.toList[start.toNat]?).map fun c => s!"'{String.ofList (Text.escapedChar c)}'"

/-- The fault of bytes that are no text, or of a text that has no bytes. -/
def codecFault (kind : String) (arguments : List Value) : Outcome Fault := do
  let (label, rest) <- match kind, arguments with
    | "UnicodeTranslateError", vs => do
        exactly 4 vs
        .ok (Value.str "", vs)
    | _, vs => do
        exactly 5 vs
        .ok (vs.headD .null, vs.drop 1)
  let decoding := kind == "UnicodeDecodeError"
  match rest with
  | [part, start, stop, reason] => do
      let first := if kind == "UnicodeTranslateError" then 1 else 2
      wantType 1 "str" label.asText?.isSome label
      match decoding, part with
      | true, .bytes _ => .ok ()
      | false, .str _ => .ok ()
      | _, v => wantType first (if decoding then "bytes" else "str") false v
      wantType (first + 1) "int" start.asInt?.isSome start
      wantType (first + 2) "int" stop.asInt?.isSome stop
      wantType (first + 3) "str" reason.asText?.isSome reason
      let start := start.asInt?.getD 0
      let shown := match part with
        | .bytes data =>
            if start < 0 then none
            else (data[start.toNat]?).map fun b =>
              "0x" ++ String.ofList (Text.hexPadded 2 b.toNat)
        | v => escapedAt? v.text start
      let verb := match kind with
        | "UnicodeDecodeError" => s!"'{label.text}' codec can't decode"
        | "UnicodeEncodeError" => s!"'{label.text}' codec can't encode"
        | _ => "can't translate"
      let (one, many) := if decoding then ("byte", "bytes") else ("character", "characters")
      .ok (.other kind (spanWording s!"{verb} {one}" s!"{verb} {many}" shown start
        (stop.asInt?.getD 0) reason.text))
  | _ => .ok (.other kind (wording arguments))

/-- The fault of a class with some arguments. -/
def faultOf (kind : String) (arguments : List Value) : Outcome Fault :=
  if systemNames.contains kind then .ok (systemFault kind arguments)
  else
    match kind, arguments with
    | "KeyError", [v] => .ok (.other kind v.literal)
    | "SyntaxError", [] => .ok (.other kind "None")
    | "UnicodeDecodeError", vs => codecFault kind vs
    | "UnicodeEncodeError", vs => codecFault kind vs
    | "UnicodeTranslateError", vs => codecFault kind vs
    | kind, vs => .ok (.other kind (wording vs))

/-! ## Making what is described -/

/-- The name of a class that may have other names. -/
def canonical (kind : String) : String :=
  if kind == "EnvironmentError" || kind == "IOError" then "OSError" else kind

/-- What a description describes, or why it cannot be made. -/
def raised (d : Description) : Outcome Raised :=
  match signature? d.kind with
  | some s => do
      let bound <- bind s d
      .ok (.error (<- assign (<- engineError d.kind bound) d.assigned))
  | none => do
      let kind := canonical d.kind
      if !faultNames.contains kind then
        .error (.other "AttributeError" s!"module 'builtins' has no attribute '{d.kind}'")
      else if !d.named.isEmpty then
        .error (.badArgument s!"{kind}() takes no keyword arguments")
      else do
        match <- faultOf kind d.positional with
        | .other "CancelledError" _ => .ok .cancelled
        | f => .ok (.fault f)

end Description

end Workflow
