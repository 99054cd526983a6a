import Workflow.Expr.Pattern

/-!
# Reading statements

A text that should be an expression may be a whole program.  Its statements are read so
that a text that is well formed but not a value is told from one that is not well formed.
-/

namespace Workflow

namespace Reading

/-- What a text says: a value, an import, or a form that is not evaluated. -/
inductive Statement where
  | value (e : Expr)
  | importing
  | excluded (form : String)
  deriving Repr, Inhabited

/-- The marks of assignments that combine the old value with a new one. -/
def combiningMarks : List String :=
  ["+=", "-=", "*=", "/=", "//=", "%=", "@=", "&=", "|=", "^=", ">>=", "<<=", "**="]

/-- Whether a value may be combined into an expression: a name, an attribute or a part. -/
def isPlace : Expr -> Bool
  | .name _ => true
  | .field .. => true
  | .subscript .. => true
  | _ => false

/-- Whether a line or a block ends here. -/
def atEnd (ts : List Token) : Bool :=
  match ts with
  | [] => true
  | .newline :: _ => true
  | .mark ";" :: _ => true
  | _ => false

/-- A value on the right of an assignment. -/
def readRight (fuel : Nat) (ts : List Token) : Option (Expr × List Token) :=
  match takeWord "yield" ts with
  | some rest => readYield fuel rest
  | none => readList fuel ts

/-- The values of a chain of assignments. -/
def readAssigned (fuel : Nat) : Nat -> Expr -> List Token -> Option (Expr × List Token)
  | 0, _, _ => none
  | n + 1, target, ts =>
      match takeMark "=" ts with
      | none => some (target, ts)
      | some rest =>
          if !assignable target then none
          else do
            let (e, rest) <- readRight fuel rest
            readAssigned fuel n e rest

/-- A dotted name. -/
def readDotted : Nat -> List Token -> Option (List Token)
  | 0, _ => none
  | fuel + 1, ts => do
      let (_, rest) <- takeName ts
      match takeMark "." rest with
      | some rest => readDotted fuel rest
      | none => some rest

/-- Names, each possibly given another name, parted by commas. -/
def readImported (dotted : Bool) : Nat -> List Token -> Option (List Token)
  | 0, _ => none
  | fuel + 1, ts => do
      let rest <- if dotted then readDotted fuel ts else do some (<- takeName ts).2
      let rest <- match takeWord "as" rest with
        | some rest => do some (<- takeName rest).2
        | none => some rest
      match takeMark "," rest with
      | some more => if atMark ")" more then some rest else readImported dotted fuel more
      | none => some rest

/-- Names parted by commas. -/
def readNames : Nat -> List Token -> Option (List Token)
  | 0, _ => none
  | fuel + 1, ts => do
      let (_, rest) <- takeName ts
      match takeMark "," rest with
      | some rest => readNames fuel rest
      | none => some rest

/-- Whether an expression can be deleted: a place, or brackets with places in them. -/
def deletable : Expr -> Bool
  | .name _ => true
  | .field .. => true
  | .subscript .. => true
  | .list items => allDeletable items
  | .tuple items => allDeletable items
  | _ => false
where
  /-- Whether every item can be deleted. -/
  allDeletable : List Expr -> Bool
    | [] => true
    | e :: rest => deletable e && allDeletable rest

/-- A statement that stands on one line. -/
def readSimple (fuel : Nat) (ts : List Token) : Option (Statement × List Token) :=
  let bare (form : String) (rest : List Token) : Option (Statement × List Token) :=
    some (.excluded form, rest)
  let names (form : String) (rest : List Token) : Option (Statement × List Token) := do
    let rest <- readNames fuel rest
    some (.excluded form, rest)
  match ts with
  | .name "pass" :: rest => bare "Pass" rest
  | .name "break" :: rest => bare "Break" rest
  | .name "continue" :: rest => bare "Continue" rest
  | .name "return" :: rest =>
      if atEnd rest then bare "Return" rest
      else do bare "Return" (<- readList fuel rest).2
  | .name "raise" :: rest =>
      if atEnd rest then bare "Raise" rest
      else do
        let (_, rest) <- readExpression fuel rest
        match takeWord "from" rest with
        | some rest => do bare "Raise" (<- readExpression fuel rest).2
        | none => bare "Raise" rest
  | .name "global" :: rest => names "Global" rest
  | .name "nonlocal" :: rest => names "Nonlocal" rest
  | .name "del" :: rest => do
      let (e, rest) <- readList fuel rest
      if deletable e then bare "Delete" rest else none
  | .name "assert" :: rest => do
      let (_, rest) <- readExpression fuel rest
      match takeMark "," rest with
      | some rest => do bare "Assert" (<- readExpression fuel rest).2
      | none => bare "Assert" rest
  | .name "import" :: rest => do
      let rest <- readImported true fuel rest
      some (.importing, rest)
  | .name "from" :: rest => do
      let dots := rest.dropWhile fun t => match t with
        | .mark "." => true
        | .mark "..." => true
        | _ => false
      let rest <- if atWord "import" dots then
          (if dots.length < rest.length then some dots else none)
        else readDotted fuel dots
      let rest <- takeWord "import" rest
      match rest with
      | .mark "*" :: rest => bare "ImportFrom" rest
      | .mark "(" :: rest => do
          let rest <- readImported false fuel rest
          let rest := (takeMark "," rest).getD rest
          bare "ImportFrom" (<- takeMark ")" rest)
      | rest => do bare "ImportFrom" (<- readImported false fuel rest)
  | .name "yield" :: rest => do
      let (e, rest) <- readYield fuel rest
      some (.value e, rest)
  | _ => do
      let (e, rest) <- readList fuel ts
      match rest with
      | .mark ":" :: rest =>
          if !isPlace e then none
          else do
            let (_, rest) <- readExpression fuel rest
            match takeMark "=" rest with
            | some rest => do bare "AnnAssign" (<- readRight fuel rest).2
            | none => bare "AnnAssign" rest
      | .mark m :: after =>
          if m == "=" then do
            let (e, rest) <- readAssigned fuel fuel e rest
            some (.value e, rest)
          else if combiningMarks.contains m then
            if isPlace e then do
              let (e, rest) <- readRight fuel after
              some (.value e, rest)
            else none
          else some (.value e, rest)
      | rest => some (.value e, rest)

/-- The statements of a line. -/
def readLine (fuel : Nat) : Nat -> List Token -> Option (List Statement × List Token)
  | 0, _ => none
  | n + 1, ts => do
      let (s, rest) <- readSimple fuel ts
      match rest with
      | .newline :: rest => some ([s], rest)
      | .mark ";" :: .newline :: rest => some ([s], rest)
      | .mark ";" :: rest => do
          let (more, rest) <- readLine fuel n rest
          some (s :: more, rest)
      | _ => none

/-- Context managers parted by commas; in brackets a comma may follow the last one. -/
def readManagers (fuel : Nat) (bracketed : Bool) : Nat -> List Token -> Option (List Token)
  | 0, _ => none
  | n + 1, ts => do
      let (_, rest) <- readExpression fuel ts
      let rest <- match takeWord "as" rest with
        | some rest => do
            let (target, rest) <- readBinary fuel 0 rest
            if assignable target then some rest else none
        | none => some rest
      match takeMark "," rest with
      | some rest =>
          if bracketed && atMark ")" rest then some rest else readManagers fuel bracketed n rest
      | none => some rest

mutual

/-- A statement, or the statements of one line. -/
def readStatements : Nat -> List Token -> Option (List Statement × List Token)
  | 0, _ => none
  | fuel + 1, ts =>
      let after (form : String) (r : Option (List Token)) : Option (List Statement × List Token) :=
        r.map fun rest => ([.excluded form], rest)
      match ts with
      | .name "if" :: rest => after "If" do
          let (_, rest) <- readNamed fuel rest
          readElifs fuel (<- readBlock fuel rest)
      | .name "while" :: rest => after "While" do
          let (_, rest) <- readNamed fuel rest
          readFinal fuel "else" (<- readBlock fuel rest)
      | .name "try" :: rest => do
          let body <- readBlock fuel rest
          match body with
          | .name "except" :: .mark "*" :: _ => after "TryStar" (readHandlers fuel true body)
          | .name "except" :: _ => after "Try" (readHandlers fuel false body)
          | .name "finally" :: rest => after "Try" (readBlock fuel rest)
          | _ => none
      | .name "match" :: rest =>
          match readMatch fuel rest with
          | some rest => after "Match" (some rest)
          | none => readLine fuel fuel ts
      | .mark "@" :: rest => do
          let (_, rest) <- readNamed fuel rest
          match rest with
          | .newline :: rest =>
              match rest with
              | .mark "@" :: _ => readStatements fuel rest
              | .name "class" :: _ => readStatements fuel rest
              | .name "def" :: _ => readStatements fuel rest
              | .name "async" :: .name "def" :: _ => readStatements fuel rest
              | _ => none
          | _ => none
      | .name "class" :: rest => after "ClassDef" do
          let (_, rest) <- takeName rest
          let rest <- match takeMark "(" rest with
            | some rest => do some (<- readArguments fuel false false false rest).2
            | none => some rest
          readBlock fuel rest
      | .name "async" :: .name "def" :: rest => after "AsyncFunctionDef" (readFunction fuel rest)
      | .name "async" :: .name "for" :: rest => after "AsyncFor" (readLoop fuel rest)
      | .name "async" :: .name "with" :: rest => after "AsyncWith" (readWith fuel rest)
      | .name "def" :: rest => after "FunctionDef" (readFunction fuel rest)
      | .name "for" :: rest => after "For" (readLoop fuel rest)
      | .name "with" :: rest => after "With" (readWith fuel rest)
      | ts => readLine fuel fuel ts

/-- A function after the word that begins it. -/
def readFunction : Nat -> List Token -> Option (List Token)
  | 0, _ => none
  | fuel + 1, ts => do
      let (_, rest) <- takeName ts
      let rest <- takeMark "(" rest
      let rest <- readParameters fuel ⟨false, false, false, false, false⟩ ")" rest
      let rest <- match takeMark "->" rest with
        | some rest => do some (<- readExpression fuel rest).2
        | none => some rest
      readBlock fuel rest

/-- A loop over the items of a collection after the word that begins it. -/
def readLoop : Nat -> List Token -> Option (List Token)
  | 0, _ => none
  | fuel + 1, ts => do
      let (_, rest) <- readTargets fuel ts
      let rest <- takeWord "in" rest
      let (_, rest) <- readList fuel rest
      readFinal fuel "else" (<- readBlock fuel rest)

/-- A block with context managers after the word that begins it. -/
def readWith : Nat -> List Token -> Option (List Token)
  | 0, _ => none
  | fuel + 1, ts =>
      let bracketed : Option (List Token) := do
        let rest <- takeMark "(" ts
        let rest <- readManagers fuel true fuel rest
        readBlock fuel (<- takeMark ")" rest)
      match bracketed with
      | some rest => some rest
      | none => do readBlock fuel (<- readManagers fuel false fuel ts)

/-- A choice among patterns after the word that begins it. -/
def readMatch : Nat -> List Token -> Option (List Token)
  | 0, _ => none
  | fuel + 1, ts => do
      let (items, comma, rest) <- readItems fuel ":" ts
      match items, comma with
      | [], _ => none
      | [.starred _], false => none
      | _, _ =>
          match rest with
          | .newline :: .indent :: rest => readCases fuel rest
          | _ => none

/-- The cases of a choice up to the end of their block. -/
def readCases : Nat -> List Token -> Option (List Token)
  | 0, _ => none
  | fuel + 1, ts => do
      let rest <- takeWord "case" ts
      let rest <- skipCasePattern fuel rest
      let rest <- readBlock fuel rest
      match rest with
      | .dedent :: rest => some rest
      | rest => readCases fuel rest

/-- A colon and the statements under it, on the same line or indented. -/
def readBlock : Nat -> List Token -> Option (List Token)
  | 0, _ => none
  | fuel + 1, ts => do
      match (<- takeMark ":" ts) with
      | .newline :: .indent :: rest => readBody fuel rest
      | rest => do
          let (_, rest) <- readLine fuel fuel rest
          some rest

/-- Indented statements up to the end of their block. -/
def readBody : Nat -> List Token -> Option (List Token)
  | 0, _ => none
  | fuel + 1, ts => do
      let (_, rest) <- readStatements fuel ts
      match rest with
      | .dedent :: rest => some rest
      | rest => readBody fuel rest

/-- The block of a word that may end a compound statement. -/
def readFinal : Nat -> String -> List Token -> Option (List Token)
  | 0, _, _ => none
  | fuel + 1, word, ts =>
      match takeWord word ts with
      | some rest => readBlock fuel rest
      | none => some ts

/-- Further branches of a condition, and the one for when none of them is taken. -/
def readElifs : Nat -> List Token -> Option (List Token)
  | 0, _ => none
  | fuel + 1, ts =>
      match takeWord "elif" ts with
      | some rest => do
          let (_, rest) <- readNamed fuel rest
          readElifs fuel (<- readBlock fuel rest)
      | none => readFinal fuel "else" ts

/-- The handlers of failures, of groups of them or of single ones, and the blocks after them. -/
def readHandlers : Nat -> Bool -> List Token -> Option (List Token)
  | 0, _, _ => none
  | fuel + 1, groups, ts =>
      match takeWord "except" ts with
      | some rest => do
          let rest <- if groups then takeMark "*" rest else some rest
          let rest <-
            (if !groups && atMark ":" rest then some rest
            else do
              let (_, rest) <- readExpression fuel rest
              match takeWord "as" rest with
              | some rest => do some (<- takeName rest).2
              | none => some rest)
          readHandlers fuel groups (<- readBlock fuel rest)
      | none => do readFinal fuel "finally" (<- readFinal fuel "else" ts)

end

/-- All statements of a text. -/
def readAll : Nat -> List Token -> Option (List Statement)
  | 0, _ => none
  | _ + 1, [] => some []
  | fuel + 1, ts => do
      let (s, rest) <- readStatements fuel ts
      some (s ++ (<- readAll fuel rest))

/-- What reading a text gives. -/
inductive Parsed where
  | statement (s : Statement)
  | blank
  | invalid
  deriving Repr, Inhabited

/-- The first statement of a text, all of which must be well formed. -/
def read (source : String) : Parsed :=
  let cs := Text.trim Text.isBlank source.toList
  match tokens? cs with
  | none => .invalid
  | some ts =>
      match readAll (24 * (cs.length + 4)) ts with
      | none => .invalid
      | some [] => .blank
      | some (s :: _) => .statement s

end Reading

end Workflow
