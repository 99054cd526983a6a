import Workflow.Template.Basic
import Workflow.Template.Token

/-!
# Reading templates

Recursive descent over tokens.  Every function takes a bound on the depth of its calls,
which the entry point computes from the number of tokens.
-/

namespace Workflow

namespace Template

/-- Why a source is not a template: the line, and the complaint where it has a wording. -/
structure SourceFault where
  line : Nat
  complaint : Option String
  deriving Repr

/-- A reader consumes tokens and may find a fault. -/
abbrev Parse := StateT (List Token) (Except SourceFault)

namespace Parse

/-- A fault on a line. -/
def failAt (line : Nat) : Parse α :=
  throw ⟨line, none⟩

/-- The next token. -/
def current : Parse Token := do
  match <- get with
  | [] => failAt 1
  | t :: _ =>
      match t.kind with
      | .fault => failAt t.line
      | _ => pure t

/-- Go past the next token; its end of the source stays. -/
def skip : Parse Unit := do
  match <- get with
  | [] => pure ()
  | t :: rest =>
      match t.kind with
      | .eof => pure ()
      | _ => set rest

/-- Take the next token. -/
def next : Parse Token := do
  let t <- current
  skip
  pure t

/-- A fault on the line of the next token. -/
def fail : Parse α := do
  failAt (<- current).line

/-- The token after the next one. -/
def look : Parse Token := do
  let t <- current
  match <- get with
  | _ :: u :: _ => pure u
  | _ => pure t

/-- Whether the next token is a mark. -/
def atMark (m : String) : Parse Bool := do
  match (<- current).kind with
  | .mark s => pure (s == m)
  | _ => pure false

/-- Whether the next token is a word. -/
def atWord (w : String) : Parse Bool := do
  match (<- current).kind with
  | .name s => pure (s == w)
  | _ => pure false

/-- Whether the token after the next one is a word. -/
def lookWord (w : String) : Parse Bool := do
  match (<- look).kind with
  | .name s => pure (s == w)
  | _ => pure false

/-- Whether the token after the next one is a mark. -/
def lookMark (m : String) : Parse Bool := do
  match (<- look).kind with
  | .mark s => pure (s == m)
  | _ => pure false

/-- Go past a mark if it comes next. -/
def skipMark (m : String) : Parse Bool := do
  if <- atMark m then skip; pure true else pure false

/-- Go past a word if it comes next. -/
def skipWord (w : String) : Parse Bool := do
  if <- atWord w then skip; pure true else pure false

/-- Take a mark that has to come next. -/
def expectMark (m : String) : Parse Unit := do
  if !(<- skipMark m) then fail

/-- Take a word that has to come next. -/
def expectWord (w : String) : Parse Unit := do
  if !(<- skipWord w) then fail

/-- Take a name that has to come next. -/
def expectName : Parse String := do
  match (<- current).kind with
  | .name s => skip; pure s
  | _ => fail

/-- Whether a statement ends here. -/
def atBlockEnd : Parse Bool := do
  match (<- current).kind with
  | .blockEnd => pure true
  | _ => pure false

/-- Take the end of a statement. -/
def expectBlockEnd : Parse Unit := do
  if <- atBlockEnd then skip else fail

end Parse

open Parse

/-! ## Terms -/

/-- How tightly operators bind, the loosest first. -/
inductive Level where
  | sum
  | product
  | power
  deriving Repr, DecidableEq

/-- The operators of a level. -/
def operatorAt? (level : Level) (m : String) : Option BinaryOp :=
  match level, m with
  | .sum, "+" => some .add
  | .sum, "-" => some .sub
  | .product, "*" => some .mul
  | .product, "/" => some .div
  | .product, "//" => some .floorDiv
  | .product, "%" => some .rem
  | .power, "**" => some .pow
  | _, _ => none

/-- The operators that compare. -/
def comparison? : String -> Option CompareOp
  | "==" => some .eq
  | "!=" => some .ne
  | "<" => some (.related .lt)
  | "<=" => some (.related .le)
  | ">" => some (.related .gt)
  | ">=" => some (.related .ge)
  | _ => none

/-- Whether a tuple ends before the next token; some words may end it too. -/
def atTupleEnd (words : List String) : Parse Bool := do
  match (<- current).kind with
  | .printEnd => pure true
  | .blockEnd => pure true
  | .mark m => pure (m == ")")
  | .name s => pure (words.contains s)
  | _ => pure false

/-- Whether the next token begins an argument of a test that is written without brackets. -/
def atTestArgument : Parse Bool := do
  match (<- current).kind with
  | .name s => pure (! ["else", "or", "and"].contains s)
  | .text _ => pure true
  | .number _ => pure true
  | .mark m => pure (m == "(" || m == "[" || m == "\x7b")
  | _ => pure false

mutual

/-- A term; without `choices` it stops before `if`. -/
def readTerm (choices : Bool) : Nat -> Parse Term
  | 0 => fail
  | fuel + 1 => do
      let start <- current
      let first <- readDisjunction fuel
      if choices then readChoices start fuel first else pure first

/-- The choices after a term that begins with a token. -/
def readChoices (start : Token) : Nat -> Term -> Parse Term
  | 0, _ => fail
  | fuel + 1, yes => do
      if <- skipWord "if" then
        let test <- readDisjunction fuel
        if <- skipWord "else" then
          let no <- readTerm true fuel
          readChoices (<- current) fuel (.choice test yes (some no) start.line)
        else
          readChoices (<- current) fuel (.choice test yes none start.line)
      else
        pure yes

/-- Terms joined by `or`. -/
def readDisjunction : Nat -> Parse Term
  | 0 => fail
  | fuel + 1 => do
      let first <- readConjunction fuel
      readDisjuncts fuel first

/-- Further terms joined by `or`. -/
def readDisjuncts : Nat -> Term -> Parse Term
  | 0, _ => fail
  | fuel + 1, left => do
      if <- skipWord "or" then
        let right <- readConjunction fuel
        readDisjuncts fuel (.disj left right)
      else pure left

/-- Terms joined by `and`. -/
def readConjunction : Nat -> Parse Term
  | 0 => fail
  | fuel + 1 => do
      let first <- readNegation fuel
      readConjuncts fuel first

/-- Further terms joined by `and`. -/
def readConjuncts : Nat -> Term -> Parse Term
  | 0, _ => fail
  | fuel + 1, left => do
      if <- skipWord "and" then
        let right <- readNegation fuel
        readConjuncts fuel (.conj left right)
      else pure left

/-- A term that `not` may precede. -/
def readNegation : Nat -> Parse Term
  | 0 => fail
  | fuel + 1 => do
      if <- skipWord "not" then
        let e <- readNegation fuel
        pure (.unary .not e)
      else
        let first <- readOperators .sum fuel
        match <- readComparisons fuel with
        | [] => pure first
        | rest => pure (.compare first rest)

/-- The comparisons after a term. -/
def readComparisons : Nat -> Parse (List (CompareOp × Term))
  | 0 => fail
  | fuel + 1 => do
      let t <- current
      let op : Option CompareOp <- match t.kind with
        | .mark m =>
            match comparison? m with
            | some op => do
                skip
                pure (some op)
            | none => pure none
        | .name "in" => do
            skip
            pure (some .isIn)
        | .name "not" => do
            if <- lookWord "in" then
              skip
              skip
              pure (some .notIn)
            else pure none
        | _ => pure none
      match op with
      | none => pure []
      | some op => do
          let right <- readOperators .sum fuel
          let rest <- readComparisons fuel
          pure ((op, right) :: rest)

/-- Terms joined by the operators of a level; concatenation binds between sums and products. -/
def readOperators (level : Level) : Nat -> Parse Term
  | 0 => fail
  | fuel + 1 => do
      let first <- readOperand level fuel
      readMoreOperators level fuel first

/-- Further terms joined by the operators of a level. -/
def readMoreOperators (level : Level) : Nat -> Term -> Parse Term
  | 0, _ => fail
  | fuel + 1, left => do
      match (<- current).kind with
      | .mark m =>
          match operatorAt? level m with
          | some op => do
              skip
              let right <- readOperand level fuel
              readMoreOperators level fuel (.binary op left right)
          | none => pure left
      | _ => pure left

/-- An operand of the operators of a level. -/
def readOperand (level : Level) : Nat -> Parse Term
  | 0 => fail
  | fuel + 1 =>
      match level with
      | .sum => do
          let first <- readOperators .product fuel
          match <- readConcatenated fuel with
          | [] => pure first
          | rest => pure (.concat (first :: rest))
      | .product => readOperators .power fuel
      | .power => readUnary true fuel

/-- The parts after a term that are concatenated to it. -/
def readConcatenated : Nat -> Parse (List Term)
  | 0 => fail
  | fuel + 1 => do
      if <- skipMark "~" then
        let part <- readOperators .product fuel
        let rest <- readConcatenated fuel
        pure (part :: rest)
      else pure []

/-- A term with a sign, its parts and calls, and, if asked for, its filters and tests. -/
def readUnary (filters : Bool) : Nat -> Parse Term
  | 0 => fail
  | fuel + 1 => do
      let base <-
        if <- skipMark "-" then do
          let e <- readUnary false fuel
          pure (.unary .neg e)
        else do
          if <- skipMark "+" then
            let e <- readUnary false fuel
            pure (.unary .pos e)
          else readPrimary fuel
      let e <- readPostfix fuel base
      if filters then readFilters fuel e else pure e

/-- A literal, a name, or a term in brackets. -/
def readPrimary : Nat -> Parse Term
  | 0 => fail
  | fuel + 1 => do
      let t <- current
      match t.kind with
      | .name s =>
          skip
          if s == "true" || s == "True" then pure (.const (.bool true))
          else if s == "false" || s == "False" then pure (.const (.bool false))
          else if s == "none" || s == "None" then pure (.const .null)
          else pure (.name s)
      | .text s => do
          skip
          let more <- readTexts fuel
          pure (.const (.str (s ++ more)))
      | .number v => do
          skip
          pure (.const v)
      | .mark "(" => do
          skip
          let e <- readTuple true true [] fuel
          expectMark ")"
          pure e
      | .mark "[" => do
          skip
          let items <- readItems fuel
          pure (.list items)
      | .mark "\x7b" => do
          skip
          let entries <- readEntries fuel
          pure (.dict entries)
      | _ => failAt t.line

/-- Further texts that follow a text directly. -/
def readTexts : Nat -> Parse String
  | 0 => fail
  | fuel + 1 => do
      match (<- current).kind with
      | .text s => do
          skip
          let more <- readTexts fuel
          pure (s ++ more)
      | _ => pure ""

/-- The items of a list, up to its closing bracket. -/
def readItems : Nat -> Parse (List Term)
  | 0 => fail
  | fuel + 1 => do
      if <- skipMark "]" then pure []
      else
        let e <- readTerm true fuel
        if !(<- atMark "]") then expectMark ","
        let rest <- readItems fuel
        pure (e :: rest)

/-- The entries of a dictionary, up to its closing bracket. -/
def readEntries : Nat -> Parse (List (Term × Term))
  | 0 => fail
  | fuel + 1 => do
      if <- skipMark "\x7d" then pure []
      else
        let key <- readTerm true fuel
        expectMark ":"
        let value <- readTerm true fuel
        if !(<- atMark "\x7d") then expectMark ","
        let rest <- readEntries fuel
        pure ((key, value) :: rest)

/--
One term, or several parted by commas.  An empty tuple needs brackets around it; some
words end the tuple.
-/
def readTuple (choices brackets : Bool) (words : List String) : Nat -> Parse Term
  | 0 => fail
  | fuel + 1 => do
      if <- atTupleEnd words then
        if brackets then pure (.tuple []) else fail
      else
        let e <- readTerm choices fuel
        if <- skipMark "," then
          let rest <- readMoreItems choices words fuel
          pure (.tuple (e :: rest))
        else pure e

/-- The terms of a tuple after a comma. -/
def readMoreItems (choices : Bool) (words : List String) : Nat -> Parse (List Term)
  | 0 => fail
  | fuel + 1 => do
      if <- atTupleEnd words then pure []
      else
        let e <- readTerm choices fuel
        if <- skipMark "," then
          let rest <- readMoreItems choices words fuel
          pure (e :: rest)
        else pure [e]

/-- The parts and calls after a term. -/
def readPostfix : Nat -> Term -> Parse Term
  | 0, _ => fail
  | fuel + 1, e => do
      match (<- current).kind with
      | .mark "." => do
          let e <- readPart fuel e
          readPostfix fuel e
      | .mark "[" => do
          let e <- readPart fuel e
          readPostfix fuel e
      | .mark "(" => do
          let a <- readCall fuel
          readPostfix fuel (.call e a)
      | _ => pure e

/-- The filters, tests and calls after a term. -/
def readFilters : Nat -> Term -> Parse Term
  | 0, _ => fail
  | fuel + 1, e => do
      match (<- current).kind with
      | .mark "|" => do
          skip
          let e <- readFilter fuel (some e)
          readFilters fuel e
      | .name "is" => do
          let e <- readTest fuel e
          readFilters fuel e
      | .mark "(" => do
          let a <- readCall fuel
          readFilters fuel (.call e a)
      | _ => pure e

/-- One filter: its name and its arguments. -/
def readFilter : Nat -> Option Term -> Parse Term
  | 0, _ => fail
  | fuel + 1, subject => do
      let line := (<- current).line
      let name <- expectName
      let name <- readDotted fuel name
      let a <- if <- atMark "(" then readCall fuel else pure .empty
      pure (.filter subject name a line)

/-- The parts of a name after dots. -/
def readDotted : Nat -> String -> Parse String
  | 0, _ => fail
  | fuel + 1, name => do
      if <- skipMark "." then
        let part <- expectName
        readDotted fuel (name ++ "." ++ part)
      else pure name

/-- A test, after `is`. -/
def readTest : Nat -> Term -> Parse Term
  | 0, _ => fail
  | fuel + 1, subject => do
      let line := (<- current).line
      skip
      let negated <- skipWord "not"
      let name <- expectName
      let name <- readDotted fuel name
      let a <-
        if <- atMark "(" then readCall fuel
        else if <- atTestArgument then do
          if <- atWord "is" then fail
          let e <- readPrimary fuel
          let e <- readPostfix fuel e
          pure { Call.empty with positional := [e] }
        else pure .empty
      let e := Term.test subject name a line
      pure (if negated then .unary .not e else e)

/-- A part of a term: after a dot or in brackets. -/
def readPart : Nat -> Term -> Parse Term
  | 0, _ => fail
  | fuel + 1, owner => do
      if <- skipMark "." then
        let t <- current
        skip
        match t.kind with
        | .name s => pure (.field owner s)
        | .number (.int n) => pure (.item owner (.const (.int n)))
        | _ => failAt t.line
      else
        skip
        match <- readKeys owner fuel with
        | [.inl key] => pure (.item owner key)
        | [.inr e] => pure e
        | keys => pure (.item owner (.tuple (keys.map fun k => match k with
            | .inl key => key
            | .inr e => e)))

/-- The keys in brackets, up to the closing one; a slice is given with its owner. -/
def readKeys (owner : Term) : Nat -> Parse (List (Term ⊕ Term))
  | 0 => fail
  | fuel + 1 => do
      if <- skipMark "]" then pure []
      else
        let k <- readKey owner fuel
        if !(<- atMark "]") then expectMark ","
        let rest <- readKeys owner fuel
        pure (k :: rest)

/-- A key, or a slice with its owner. -/
def readKey (owner : Term) : Nat -> Parse (Term ⊕ Term)
  | 0 => fail
  | fuel + 1 => do
      let lower <- readBound fuel
      if <- skipMark ":" then
        let upper <- readBound fuel
        let step <- if <- skipMark ":" then readBound fuel else pure none
        pure (.inr (.slice owner lower upper step))
      else
        match lower with
        | some key => pure (.inl key)
        | none => do
            let key <- readTerm true fuel
            pure (.inl key)

/-- A bound of a slice, which may be left out. -/
def readBound : Nat -> Parse (Option Term)
  | 0 => fail
  | fuel + 1 => do
      match (<- current).kind with
      | .mark ":" => pure none
      | .mark "]" => pure none
      | .mark "," => pure none
      | _ => do
          let e <- readTerm true fuel
          pure (some e)

/-- The arguments of a call, with the brackets around them. -/
def readCall : Nat -> Parse (Call Term)
  | 0 => fail
  | fuel + 1 => do
      let opening <- current
      expectMark "("
      readArguments opening true .empty fuel

/-- The arguments that are left, up to the closing bracket. -/
def readArguments (opening : Token) (first : Bool) (a : Call Term) : Nat -> Parse (Call Term)
  | 0 => fail
  | fuel + 1 => do
      if <- skipMark ")" then pure a
      else
        if !first then expectMark ","
        if <- skipMark ")" then pure a
        else if <- atMark "*" then do
          if a.spread.isSome || a.spreadNamed.isSome then failAt opening.line
          skip
          let e <- readTerm true fuel
          readArguments opening false { a with spread := some e } fuel
        else if <- atMark "**" then do
          if a.spreadNamed.isSome then failAt opening.line
          skip
          let e <- readTerm true fuel
          readArguments opening false { a with spreadNamed := some e } fuel
        else
          match (<- current).kind, (<- lookMark "=") with
          | .name key, true => do
              if a.spreadNamed.isSome then failAt opening.line
              skip
              skip
              let e <- readTerm true fuel
              readArguments opening false { a with named := a.named ++ [(key, e)] } fuel
          | _, _ => do
              if a.spread.isSome || a.spreadNamed.isSome || !a.named.isEmpty then failAt opening.line
              let e <- readTerm true fuel
              readArguments opening false { a with positional := a.positional ++ [e] } fuel

end

/-! ## Places -/

/-- Words that are values and cannot be assigned to. -/
def constantWords : List String :=
  ["true", "false", "none", "True", "False", "None"]

/-- The place a term stands for, when it can be assigned to. -/
def placeOf? (line : Nat) : Term -> Option Place
  | .name id => some (.name id line)
  | .tuple items => (placesOf? items).map .several
  | _ => none
where
  /-- The places that terms stand for. -/
  placesOf? : List Term -> Option (List Place)
    | [] => some []
    | e :: rest => do
        let p <- placeOf? line e
        some (p :: (<- placesOf? rest))

/-- A name that is assigned to. -/
def readNewName : Parse String := do
  let line := (<- current).line
  let name <- expectName
  if constantWords.contains name then failAt line else pure name

/-- Primary terms parted by commas, as they stand on the left of an assignment. -/
def readPrimaries (words : List String) : Nat -> Parse (List Term × Bool)
  | 0 => fail
  | fuel + 1 => do
      if <- atTupleEnd words then pure ([], true)
      else
        let e <- readPrimary fuel
        if <- skipMark "," then
          let (rest, _) <- readPrimaries words fuel
          pure (e :: rest, true)
        else pure ([e], false)

/-- What is assigned to: names, which brackets may group. -/
def readPlace (words : List String) (fuel : Nat) : Parse Place := do
  let line := (<- current).line
  let (items, several) <- readPrimaries words fuel
  let e <- match items, several with
    | [], _ => fail
    | [e], false => pure e
    | es, _ => pure (.tuple es)
  match placeOf? line e with
  | some p => pure p
  | none => failAt line

/-- What `set` assigns to: names, or a part of a namespace. -/
def readSetPlace (fuel : Nat) : Parse Place := do
  if <- lookMark "." then
    let owner <- expectName
    skip
    let name <- expectName
    pure (.field owner name)
  else readPlace [] fuel

/-! ## Statements -/

/-- The parameters of a macro, with their brackets. -/
def readParameters (first defaulted : Bool) : Nat -> Parse (List (String × Option Term))
  | 0 => fail
  | fuel + 1 => do
      if <- skipMark ")" then pure []
      else
        if !first then expectMark ","
        let name <- readNewName
        if <- skipMark "=" then
          let e <- readTerm true fuel
          let rest <- readParameters false true fuel
          pure ((name, some e) :: rest)
        else if defaulted then fail
        else
          let rest <- readParameters false false fuel
          pure ((name, none) :: rest)

/-- A signature: an opening bracket and parameters. -/
def readSignature (fuel : Nat) : Parse (List (String × Option Term)) := do
  expectMark "("
  readParameters true false fuel

/-- The bindings of a `with` statement. -/
def readBindings (first : Bool) : Nat -> Parse (List (Place × Term))
  | 0 => fail
  | fuel + 1 => do
      if <- atBlockEnd then pure []
      else
        if !first then expectMark ","
        let place <- readPlace [] fuel
        expectMark "="
        let e <- readTerm true fuel
        let rest <- readBindings false fuel
        pure ((place, e) :: rest)

/-- The terms of a `print` statement. -/
def readPrinted (first : Bool) : Nat -> Parse (List Term)
  | 0 => fail
  | fuel + 1 => do
      if <- atBlockEnd then pure []
      else
        if !first then expectMark ","
        let e <- readTerm true fuel
        let rest <- readPrinted false fuel
        pure (e :: rest)

/-- Filters in a row, the first of which has no subject. -/
def readFilterRow (subject : Option Term) : Nat -> Parse (Option Term)
  | 0 => fail
  | fuel + 1 => do
      if <- skipMark "|" then
        let e <- readFilter fuel subject
        readFilterRow (some e) fuel
      else pure subject

/-- `with context` or `without context`. -/
def readSharing : Parse Bool := do
  if ((<- atWord "with") || (<- atWord "without")) && (<- lookWord "context") then
    skip
    skip
    pure true
  else pure false

/-- The names a statement imports. -/
def readImports (first : Bool) : Nat -> Parse Unit
  | 0 => fail
  | fuel + 1 => do
      if !first then expectMark ","
      match (<- current).kind with
      | .name _ => do
          if <- readSharing then pure ()
          else
            let line := (<- current).line
            let name <- readNewName
            if name.startsWith "_" then
              throw ⟨line, some "names starting with an underline can not be imported"⟩
            if <- skipWord "as" then let _ <- readNewName
            if <- readSharing then pure ()
            else if <- atMark "," then readImports false fuel
            else pure ()
      | _ => fail

/-- Whether a text holds white space only, of which it has some. -/
def isBlankText (s : String) : Bool :=
  !s.isEmpty && s.toList.all Text.isBlank

/-- Whether statements are white space only. -/
def areBlank (body : List Statement) : Bool :=
  body.all fun s => match s with
    | .text s => isBlankText s
    | _ => false

mutual

/-- The body of a statement, up to one of the words that end it, which comes next. -/
def readBody (ends : List String) : Nat -> Parse (List Statement)
  | 0 => fail
  | fuel + 1 => do
      let _ <- skipMark ":"
      expectBlockEnd
      let body <- readStatements (some ends) fuel
      match (<- current).kind with
      | .eof => fail
      | _ => pure body

/-- A body, with the word that ends it. -/
def readWhole (stop : String) : Nat -> Parse (List Statement)
  | 0 => fail
  | fuel + 1 => do
      let body <- readBody [stop] fuel
      skip
      pure body

/-- Statements, up to one of the words that end them or to the end of the source. -/
def readStatements (ends : Option (List String)) : Nat -> Parse (List Statement)
  | 0 => fail
  | fuel + 1 => do
      match (<- current).kind with
      | .eof => pure []
      | .data s => do
          skip
          let rest <- readStatements ends fuel
          pure (.text s :: rest)
      | .printBegin => do
          skip
          let e <- readTuple true false [] fuel
          match (<- current).kind with
          | .printEnd => skip
          | _ => fail
          let rest <- readStatements ends fuel
          pure (.print [e] :: rest)
      | .blockBegin => do
          skip
          let ended <- match ends, (<- current).kind with
            | some words, .name s => pure (words.contains s)
            | _, _ => pure false
          if ended then pure []
          else
            let s <- readStatement fuel
            expectBlockEnd
            let rest <- readStatements ends fuel
            pure (s :: rest)
      | _ => fail

/-- One statement, between its marks. -/
def readStatement : Nat -> Parse Statement
  | 0 => fail
  | fuel + 1 => do
      let t <- current
      let word <- match t.kind with
        | .name s => pure s
        | _ => failAt t.line
      match word with
      | "for" => do
          skip
          let place <- readPlace ["in"] fuel
          expectWord "in"
          let source <- readTuple false false ["recursive"] fuel
          let test <- if <- skipWord "if" then do
              let e <- readTerm true fuel
              pure (some e)
            else pure none
          let recursive <- skipWord "recursive"
          let body <- readBody ["endfor", "else"] fuel
          let otherwise <- if <- skipWord "endfor" then pure [] else do
            skip
            readWhole "endfor" fuel
          pure (.forEach place source test recursive body otherwise)
      | "if" => do
          skip
          let (branches, otherwise) <- readBranches fuel
          pure (.cond branches otherwise)
      | "with" => do
          skip
          let bindings <- readBindings true fuel
          let body <- readWhole "endwith" fuel
          pure (.within bindings body)
      | "autoescape" => do
          skip
          let on <- readTerm true fuel
          let body <- readWhole "endautoescape" fuel
          pure (.escaping on body)
      | "block" => do
          skip
          let name <- expectName
          let inherits <- skipWord "scoped"
          let required <- skipWord "required"
          if <- atMark "-" then fail
          let body <- readWhole "endblock" fuel
          if required && !areBlank body then fail
          let _ <- skipWord name
          pure (.block name inherits required body t.line)
      | "extends" => do
          skip
          let e <- readTerm true fuel
          pure (.load e)
      | "include" => do
          skip
          let e <- readTerm true fuel
          if (<- atWord "ignore") && (<- lookWord "missing") then
            skip
            skip
          let _ <- readSharing
          pure (.load e)
      | "import" => do
          skip
          let e <- readTerm true fuel
          expectWord "as"
          let _ <- readNewName
          let _ <- readSharing
          pure (.load e)
      | "from" => do
          skip
          let e <- readTerm true fuel
          expectWord "import"
          readImports true fuel
          pure (.load e)
      | "set" => do
          skip
          let place <- readSetPlace fuel
          if <- skipMark "=" then
            let e <- readTuple true false [] fuel
            pure (.assign place e)
          else
            let filter <- readFilterRow none fuel
            let body <- readWhole "endset" fuel
            pure (.assignText place filter body)
      | "print" => do
          skip
          let items <- readPrinted true fuel
          pure (.print items)
      | "macro" => do
          skip
          let name <- readNewName
          let parameters <- readSignature fuel
          let body <- readWhole "endmacro" fuel
          pure (.defineMacro name parameters body t.line)
      | "call" => do
          skip
          let parameters <- if <- atMark "(" then readSignature fuel else pure []
          let e <- readTerm true fuel
          match e with
          | .call callee a => do
              let body <- readWhole "endcall" fuel
              pure (.callWith parameters callee a body t.line)
          | _ => failAt t.line
      | "filter" => do
          skip
          let first <- readFilter fuel none
          match <- readFilterRow (some first) fuel with
          | some e => do
              let body <- readWhole "endfilter" fuel
              pure (.filtered e body)
          | none => fail
      | _ => failAt t.line

/-- The branches of a condition, and what is written when none of them applies. -/
def readBranches : Nat -> Parse (List (Term × List Statement) × List Statement)
  | 0 => fail
  | fuel + 1 => do
      let test <- readTuple false false [] fuel
      let body <- readBody ["elif", "else", "endif"] fuel
      if <- skipWord "elif" then
        let (branches, otherwise) <- readBranches fuel
        pure ((test, body) :: branches, otherwise)
      else if <- skipWord "else" then
        let otherwise <- readWhole "endif" fuel
        pure ([(test, body)], otherwise)
      else
        skip
        pure ([(test, body)], [])

end

/-- Read a source as a template. -/
def read (source : String) : Except SourceFault (List Statement) := do
  let ts := tokens source
  let (body, _) <- (readStatements none (24 * ts.length + 24)).run ts
  .ok body

end Template

end Workflow
