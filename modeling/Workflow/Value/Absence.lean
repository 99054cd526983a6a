import Workflow.Fault
import Workflow.Value.Basic

/-!
# Values that do not exist

A template may read what does not exist and pass it on; using it is a fault.
-/

namespace Workflow

namespace Value

/-- The fault of using a value that does not exist. -/
def absenceFault (hint : String) : Absence -> Fault
  | .restricted => .other "SecurityError" hint
  | _ => .other "UndefinedError" hint

/-- A value that does not exist may not be used, unless it is a lenient one. -/
def strictUse : Value -> Outcome Unit
  | undefined _ .lenient => .ok ()
  | undefined hint absence => .error (absenceFault hint absence)
  | _ => .ok ()

/-- A value that does not exist has no parts, even when it is a lenient one. -/
def presentUse : Value -> Outcome Unit
  | undefined hint absence => .error (absenceFault hint absence)
  | _ => .ok ()

end Value

end Workflow
