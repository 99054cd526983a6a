import Workflow.Error

/-!
# Environment variables

Definitions may name variables of the environment, with a default for those that are
not set.  Their values may name variables again, to a limited depth.
-/

namespace Workflow

/-- The variables of the environment. -/
abbrev Environment := List (String × String)

namespace Environment

/-- The value of a variable that is set. -/
def get? (env : Environment) (name : String) : Option String :=
  List.lookup name env

/-- A reference to a variable: its name and its default, when it has one. -/
structure Variable where
  name : List Char
  default : Option (List Char)
  deriving Repr, DecidableEq

/-- The reference a text begins with, and what follows it. -/
def referenceAt? : List Char -> Option (Variable × List Char)
  | '$' :: '\x7b' :: rest =>
      let name := rest.takeWhile fun c => c != '\x7d' && c != ':'
      if name.isEmpty then none
      else
        match rest.dropWhile fun c => c != '\x7d' && c != ':' with
        | '\x7d' :: after => some (⟨name, none⟩, after)
        | ':' :: '-' :: more =>
            match more.dropWhile (· != '\x7d') with
            | _ :: after => some (⟨name, some (more.takeWhile (· != '\x7d'))⟩, after)
            | [] => none
        | _ => none
  | _ => none

/-- What follows a reference is shorter than what begins with it. -/
theorem referenceAt?_shorter {cs after : List Char} {r : Variable}
    (h : referenceAt? cs = some (r, after)) : after.length < cs.length := by
  unfold referenceAt? at h
  split at h
  · next rest =>
      have bound := (List.dropWhile_sublist (l := rest)
        fun c => c != '\x7d' && c != ':').length_le
      dsimp only at h
      split at h
      · cases h
      · split at h
        · next heq =>
            cases h
            rw [heq] at bound
            simp only [List.length_cons] at bound ⊢
            omega
        · next more heq =>
            have inner := (List.dropWhile_sublist (l := more) (· != '\x7d')).length_le
            rw [heq] at bound
            split at h
            · next heq' =>
                cases h
                rw [heq'] at inner
                simp only [List.length_cons] at bound inner ⊢
                omega
            · cases h
        · cases h
  · cases h

/-- Whether a text holds a reference. -/
def hasReference : List Char -> Bool
  | [] => false
  | c :: rest => (referenceAt? (c :: rest)).isSome || hasReference rest

/-- A required variable is not set. -/
def notSet (name : String) : Error :=
  Error.load s!"Required environment variable '{name}' is not set"
    (some (s!"Set the environment variable '{name}' or provide a default value using the syntax: "
      ++ "$\x7b" ++ name ++ ":-default_value\x7d")) none none

/-- The text a reference stands for. -/
def valueOf (env : Environment) (r : Variable) : Except Error (List Char) :=
  match env.get? (String.ofList r.name) with
  | some value => .ok value.toList
  | none =>
      match r.default with
      | some value => .ok value
      | none => .error (notSet (String.ofList r.name))

/-- A text with its leftmost references replaced once. -/
def substituteOnce (env : Environment) (cs : List Char) : Except Error (List Char) :=
  match cs with
  | [] => .ok []
  | c :: rest =>
      match _ : referenceAt? (c :: rest) with
      | some (r, after) => do
          let value <- valueOf env r
          .ok (value ++ (<- substituteOnce env after))
      | none => do .ok (c :: (<- substituteOnce env rest))
termination_by cs.length
decreasing_by
  · exact referenceAt?_shorter (by assumption)
  · simp

/-- Values name each other without end. -/
def tooDeep (text : String) : Error :=
  Error.load
    s!"Maximum recursion depth exceeded while resolving environment variables in: {text}"
    (some "Check for circular references in your environment variables.") none none

/-- How often the result of a substitution may be read for references again. -/
def maxDepth : Nat := 10

/-- Replace references until none is left, at most `depth` times. -/
def substituteText (env : Environment) : Nat -> String -> Except Error String
  | 0, s => .error (tooDeep s)
  | depth + 1, s => do
      let result <- substituteOnce env s.toList
      if hasReference result then substituteText env depth (String.ofList result)
      else .ok (String.ofList result)

mutual

/-- Replace the references in all texts of a tree of dictionaries and lists. -/
def substitute (env : Environment) : Value -> Except Error Value
  | .str s => do .ok (.str (<- substituteText env maxDepth s))
  | .list items => do .ok (.list (<- substituteItems env items))
  | .dict entries => do .ok (.dict (<- substituteEntries env entries))
  | v => .ok v

/-- Replace the references in items. -/
def substituteItems (env : Environment) : List Value -> Except Error (List Value)
  | [] => .ok []
  | x :: rest => do
      let y <- substitute env x
      .ok (y :: (<- substituteItems env rest))

/-- Replace the references in the values of entries. -/
def substituteEntries (env : Environment) :
    List (Value × Value) -> Except Error (List (Value × Value))
  | [] => .ok []
  | (k, v) :: rest => do
      let w <- substitute env v
      .ok ((k, w) :: (<- substituteEntries env rest))

end

end Environment

end Workflow
