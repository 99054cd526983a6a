import Workflow.Error.Description
import Workflow.Main
import Workflow.Proofs.Execution.Lifecycle
import Workflow.Proofs.Execution.Interference
import Workflow.Proofs.Definition.Loading
import Workflow.Proofs.Store.Failure
import Workflow.Proofs.Execution.Fatal
import Workflow.Proofs.Expr.Absence
import Workflow.Proofs.Execution.Blame
import Workflow.Proofs.Execution.Isolation
import Workflow.Proofs.Ledger.Retention
import Workflow.Proofs.Store.History
import Workflow.Proofs.Definition.Rereading
import Workflow.Proofs.Dispatch.Metered
import Workflow.Proofs.Execution.Bounded
import Workflow.Proofs.Definition.Texts
import Workflow.Proofs.Reference.Literals
import Workflow.Proofs.Dispatch.Policy
import Workflow.Proofs.Reference.Hygiene
import Workflow.Proofs.Reference.Verbatim
import Workflow.Proofs.Definition.Substitution
import Workflow.Proofs.Execution.Inputs
import Workflow.Proofs.Reference.Chain
import Workflow.Proofs.Dispatch.Branches
import Workflow.Proofs.Expr.Coincidence
import Workflow.Proofs.Dispatch.Overflow
import Workflow.Proofs.Template.Printing
import Workflow.Proofs.Template.Filling
import Workflow.Proofs.Template.Eclipse
import Workflow.Proofs.Reference.Position
import Workflow.Proofs.Reference.Remainder
import Workflow.Proofs.CommandLine.Flags
import Workflow.Proofs.Template.Fallback
