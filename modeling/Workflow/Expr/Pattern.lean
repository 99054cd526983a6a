import Workflow.Expr.Reading

/-!
# Patterns

A text may choose among patterns that a value matches.  Such a form is never evaluated,
so a pattern is only recognised: each function gives the tokens that follow one.
-/

namespace Workflow

namespace Reading

/-- A number, which may be negative and may have an imaginary part, of a pattern. -/
def skipNumber (ts : List Token) : Option (List Token) :=
  let isComplex : Value -> Bool
    | .complex .. => true
    | _ => false
  match (takeMark "-" ts).getD ts with
  | .number real :: .mark m :: rest =>
      if m == "+" || m == "-" then
        match rest with
        | .number imaginary :: rest =>
            if !isComplex real && isComplex imaginary then some rest else none
        | _ => none
      else some (.mark m :: rest)
  | .number _ :: rest => some rest
  | _ => none

/-- A name and the names of attributes after it; says whether there are any. -/
def skipPath : Nat -> List Token -> Option (Bool × List Token)
  | 0, _ => none
  | fuel + 1, ts => do
      let (_, rest) <- takeName ts
      match takeMark "." rest with
      | some rest => do some (true, (<- skipPath fuel rest).2)
      | none => some (false, rest)

/-- A literal of a pattern. -/
def skipLiteral (fuel : Nat) (ts : List Token) : Option (List Token) :=
  match ts with
  | .name w :: rest => if ["None", "True", "False"].contains w then some rest else none
  | .text _ :: _ => (readTexts fuel ts).map (·.2)
  | .bytes _ :: _ => (readTexts fuel ts).map (·.2)
  | .template .. :: _ => (readTexts fuel ts).map (·.2)
  | _ => skipNumber ts

/-- The name that a pattern gives to what it matches. -/
def takeCapture (ts : List Token) : Option (List Token) := do
  let (name, rest) <- takeName ts
  if name == "_" || atMark "." rest || atMark "(" rest || atMark "=" rest then none
  else some rest

mutual

/-- A pattern: alternatives, and perhaps a name for what they match. -/
def skipPattern : Nat -> List Token -> Option (List Token)
  | 0, _ => none
  | fuel + 1, ts => do
      let rest <- skipAlternatives fuel ts
      match takeWord "as" rest with
      | some rest => takeCapture rest
      | none => some rest

/-- Patterns parted by bars. -/
def skipAlternatives : Nat -> List Token -> Option (List Token)
  | 0, _ => none
  | fuel + 1, ts => do
      let rest <- skipClosed fuel ts
      match takeMark "|" rest with
      | some rest => skipAlternatives fuel rest
      | none => some rest

/-- A pattern that needs no brackets. -/
def skipClosed : Nat -> List Token -> Option (List Token)
  | 0, _ => none
  | fuel + 1, ts =>
      match skipLiteral fuel ts with
      | some rest => some rest
      | none =>
          match ts with
          | .mark "(" :: .mark ")" :: rest => some rest
          | .mark "(" :: rest => do takeMark ")" (<- skipSeveral fuel true ")" rest)
          | .mark "[" :: .mark "]" :: rest => some rest
          | .mark "[" :: rest => do takeMark "]" (<- skipSeveral fuel false "]" rest)
          | .mark "\x7b" :: rest => skipEntries fuel rest
          | _ => do
              let (_, rest) <- skipPath fuel ts
              match takeMark "(" rest with
              | some rest => skipFields fuel false rest
              | none => if atMark "=" rest then none else some rest

/--
Patterns parted by commas before a closing mark, each of which may stand for the rest of a
sequence; one of those may not stand `alone` without a comma.
-/
def skipSeveral : Nat -> Bool -> String -> List Token -> Option (List Token)
  | 0, _, _, _ => none
  | fuel + 1, alone, close, ts => do
      let starred := takeMark "*" ts
      let rest <-
        (match starred with
        | some (.name "_" :: rest) => some rest
        | some rest => takeCapture rest
        | none => skipPattern fuel ts)
      match takeMark "," rest with
      | some rest => if atMark close rest then some rest else skipSeveral fuel false close rest
      | none => if alone && starred.isSome then none else some rest

/-- The entries of a mapping up to the closing brace. -/
def skipEntries : Nat -> List Token -> Option (List Token)
  | 0, _ => none
  | fuel + 1, ts =>
      match ts with
      | .mark "\x7d" :: rest => some rest
      | .mark "**" :: rest => do
          let rest <- takeCapture rest
          takeMark "\x7d" ((takeMark "," rest).getD rest)
      | _ => do
          let rest <-
            (match skipLiteral fuel ts with
            | some rest => some rest
            | none => do
                let (dotted, rest) <- skipPath fuel ts
                if dotted then some rest else none)
          let rest <- takeMark ":" rest
          let rest <- skipPattern fuel rest
          match takeMark "," rest with
          | some rest => skipEntries fuel rest
          | none => takeMark "\x7d" rest

/-- The patterns of the fields of a class, the named ones last, up to the closing mark. -/
def skipFields : Nat -> Bool -> List Token -> Option (List Token)
  | 0, _, _ => none
  | fuel + 1, named, ts =>
      match takeMark ")" ts with
      | some rest => some rest
      | none => do
          let (named, ts) <-
            (match ts with
            | .name w :: .mark "=" :: rest => if reserved.contains w then none else some (true, rest)
            | _ => if named then none else some (false, ts))
          let rest <- skipPattern fuel ts
          match takeMark "," rest with
          | some rest => skipFields fuel named rest
          | none => takeMark ")" rest

end

/-- The pattern of a case: one pattern, or several without brackets. -/
def skipCasePattern (fuel : Nat) (ts : List Token) : Option (List Token) := do
  let rest <- skipSeveral fuel true ":" ts
  match takeWord "if" rest with
  | some rest => do some (<- readNamed fuel rest).2
  | none => some rest

end Reading

end Workflow
