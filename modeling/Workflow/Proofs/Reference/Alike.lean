import Workflow.Proofs.Reference.Agreement
import Workflow.Proofs.Value.Alike

/-!
# Tokens in alike scopes

Where no token begins with the name under which two scopes differ, resolving and binding
give the same in both.
-/

namespace Workflow

variable {name : String} {s t : List (Value × Value)}

/-- Alike scopes agree on every name but the one under which they differ. -/
theorem AlikeBut.agree (h : AlikeBut (.str name) s t) : Expr.AgreeOn (· ≠ name) s t :=
  fun _ hne => h.field? hne

namespace Reference

/-- None of some paths begins with a name. -/
def Avoids (name : String) (paths : List String) : Prop :=
  ∀ path ∈ paths, origin path ≠ name

theorem Avoids.within {paths : List String} (h : Avoids name paths) : Within (· ≠ name) paths :=
  fun path hp => .inr (.inr (h path hp))

/-- A value resolves alike where none of its tokens begins with the name. -/
theorem resolve_alike (h : AlikeBut (.str name) s t) (v : Value) (hp : Avoids name (unresolved v)) :
    resolve (.dict s) v = resolve (.dict t) v :=
  resolve_agree h.agree v hp.within

/-- An expression is bound alike where none of its tokens begins with the name. -/
theorem bind_alike (h : AlikeBut (.str name) s t) (reserved : List String) {expression : String}
    (hp : Avoids name (boundPaths expression)) :
    bind (.dict s) reserved expression = bind (.dict t) reserved expression :=
  bind_agree h.agree reserved hp.within

end Reference

end Workflow
