import Workflow.Calendar

/-!
# Fresh values

The clock and the supply of identifiers.  Identifiers are numbered in the order in
which they are issued, so that no two are the same.
-/

namespace Workflow

/-- What fresh values are drawn from. -/
structure Fresh where
  now : DateTime
  /-- The number of identifiers issued so far. -/
  issued : Nat
  deriving Repr, DecidableEq

namespace Fresh

/-- The identifier with a number: the number fills the last group. -/
def identifierText (n : Nat) : String :=
  s!"00000000-0000-4000-8000-{padded 12 n}"

/-- Issue the next identifier. -/
def issue (f : Fresh) : String × Fresh :=
  (identifierText (f.issued + 1), { f with issued := f.issued + 1 })

/-- Identifiers with different numbers are different. -/
theorem identifierText_injective {m n : Nat} (h : identifierText m = identifierText n) :
    m = n := by
  unfold identifierText at h
  rw [String.append_right_inj] at h
  exact padded_injective 12 h

end Fresh

end Workflow
