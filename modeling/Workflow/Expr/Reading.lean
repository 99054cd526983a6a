import Workflow.Expr.Basic
import Workflow.Expr.Token

/-!
# Reading expressions

Recursive descent over tokens.  Every function takes a bound on the depth of its calls,
which the entry point computes from the number of characters; a text that is not of
the language gives `none`.
-/

namespace Workflow

namespace Reading

/-- A result beside the tokens that are left. -/
abbrev Reader (α : Type) := List Token -> Option (α × List Token)

/-- Take a mark. -/
def takeMark (m : String) : List Token -> Option (List Token)
  | .mark s :: rest => if s == m then some rest else none
  | _ => none

/-- Take a word. -/
def takeWord (w : String) : List Token -> Option (List Token)
  | .name s :: rest => if s == w then some rest else none
  | _ => none

/-- Whether a mark comes next. -/
def atMark (m : String) (ts : List Token) : Bool :=
  (takeMark m ts).isSome

/-- Whether a word comes next. -/
def atWord (w : String) (ts : List Token) : Bool :=
  (takeWord w ts).isSome

/-- Take a name that is not reserved. -/
def takeName : Reader String
  | .name s :: rest => if reserved.contains s then none else some (s, rest)
  | _ => none

/-- The binary operators of each level, the loosest first. -/
def binaryAt? (level : Nat) (m : String) : Option BinaryOp :=
  match level, m with
  | 0, "|" => some .bitOr
  | 1, "^" => some .bitXor
  | 2, "&" => some .bitAnd
  | 3, "<<" => some .shiftLeft
  | 3, ">>" => some .shiftRight
  | 4, "+" => some .add
  | 4, "-" => some .sub
  | 5, "*" => some .mul
  | 5, "/" => some .div
  | 5, "//" => some .floorDiv
  | 5, "%" => some .rem
  | 5, "@" => some .matMul
  | _, _ => none

/-- The comparison operator that comes next. -/
def takeComparison : Reader CompareOp
  | .mark "==" :: rest => some (.eq, rest)
  | .mark "!=" :: rest => some (.ne, rest)
  | .mark "<" :: rest => some (.related .lt, rest)
  | .mark "<=" :: rest => some (.related .le, rest)
  | .mark ">" :: rest => some (.related .gt, rest)
  | .mark ">=" :: rest => some (.related .ge, rest)
  | .name "in" :: rest => some (.isIn, rest)
  | .name "not" :: .name "in" :: rest => some (.notIn, rest)
  | .name "is" :: .name "not" :: rest => some (.isNot, rest)
  | .name "is" :: rest => some (.is, rest)
  | _ => none

/-- Whether an expression can be assigned to. -/
def assignable : Expr -> Bool
  | .name _ => true
  | .field .. => true
  | .subscript .. => true
  | .starred e => assignable e
  | .list items => allAssignable items
  | .tuple items => allAssignable items
  | _ => false
where
  /-- Whether every item can be assigned to. -/
  allAssignable : List Expr -> Bool
    | [] => true
    | e :: rest => assignable e && allAssignable rest

/-- The binding form of an expression that can be assigned to. -/
def toTarget : Expr -> Target
  | .name id => .name id
  | .list items => .several (toTargets items)
  | .tuple items => .several (toTargets items)
  | .field .. => .other "Attribute"
  | .subscript .. => .other "Subscript"
  | .starred _ => .other "Starred"
  | _ => .other "Expr"
where
  /-- The binding forms of several expressions. -/
  toTargets : List Expr -> List Target
    | [] => []
    | e :: rest => toTarget e :: toTargets rest

/-! ## Texts with embedded expressions -/

/-- A piece of a text with embedded expressions. -/
inductive Piece where
  | literal (cs : List Char)
  /-- The characters of an expression, and the pieces of its format specification. -/
  | embedded (source : List Char) (spec : Option (List Piece))

/--
Split literal characters off the front; doubled braces count as one at the outer level.
The braces round the name of a character are no braces of the text: `named` says that
such a name is being read.
-/
def spanLiteral (raw outer : Bool) (named : Bool) :
    List Char -> Option (List Char × List Char)
  | [] => some ([], [])
  | c :: rest =>
      let keep (named : Bool) : Option (List Char × List Char) :=
        (spanLiteral raw outer named rest).map fun (l, r) => (c :: l, r)
      if named then keep (c != '\x7d')
      else
        match rest with
        | [] =>
            if c == '\x7b' then some ([], [c])
            else if c == '\x7d' then if outer then none else some ([], [c])
            else keep false
        | d :: more =>
            let both (named : Bool) : Option (List Char × List Char) :=
              (spanLiteral raw outer named more).map fun (l, r) => (c :: d :: l, r)
            if c == '\\' && !raw && d == '\\' then both false
            else if c == '\\' && !raw && d == 'N' then both (more.head? == some '\x7b')
            else if c == '\x7b' || c == '\x7d' then
              if outer && c == d then
                (spanLiteral raw outer false more).map fun (l, r) => (c :: l, r)
              else if outer && c == '\x7d' then none
              else some ([], c :: rest)
            else keep false

/-- Split the text between quotes off the front, closing quotes included. -/
def spanQuoted (quote : Char) (triple : Bool) : List Char -> Option (List Char × List Char)
  | [] => none
  | c :: rest =>
      if c == '\\' then none
      else if c == quote then
        if triple then
          match rest with
          | a :: b :: more =>
              if a == quote && b == quote then some ([c, a, b], more)
              else (spanQuoted quote triple rest).map fun (s, r) => (c :: s, r)
          | _ => none
        else some ([c], rest)
      else (spanQuoted quote triple rest).map fun (s, r) => (c :: s, r)

/--
Split the source of an embedded expression off the front: it ends before a mark that
is not inside brackets or quotes.  The fuel is the number of characters.
-/
def spanSource : Nat -> List Char -> List Char -> Option (List Char × List Char)
  | 0, _, _ => none
  | _ + 1, _, [] => none
  | fuel + 1, open', c :: rest =>
      let keep (n : Nat) : Option (List Char × List Char) :=
        (spanSource fuel open' ((c :: rest).drop n)).map fun (s, r) => ((c :: rest).take n ++ s, r)
      if c == '\\' || c == '#' then none
      else if c == '\'' || c == '"' then
        let triple := match rest with
          | a :: b :: _ => a == c && b == c
          | _ => false
        let opening := if triple then [c, c, c] else [c]
        match spanQuoted c triple (rest.drop (opening.length - 1)) with
        | none => none
        | some (body, more) =>
            (spanSource fuel open' more).map fun (s, r) => (opening ++ body ++ s, r)
      else
        match closing? c with
        | some d => (spanSource fuel (d :: open') rest).map fun (s, r) => (c :: s, r)
        | none =>
            if open'.isEmpty && ['!', ':', '\x7d', '=', '<', '>'].contains c then
              let doubled := rest.head? == some '='
              if doubled && c != ':' && c != '\x7d' then keep 2
              else if c == '<' || c == '>' then keep 1
              else some ([], c :: rest)
            else if c == ')' || c == ']' || c == '\x7d' then
              match open' with
              | d :: up => if c == d then
                  (spanSource fuel up rest).map fun (s, r) => (c :: s, r) else none
              | [] => none
            else keep 1

/--
The pieces of a text with embedded expressions, and what follows them.  At depth 0 they
reach to the end; the pieces of a format specification end before a closing brace.  An
expression may stand in a specification, and only a literal in the specification of that.
-/
def piecesOf (raw : Bool) : Nat -> Nat -> List Char -> Option (List Piece × List Char)
  | 0, _, _ => none
  | fuel + 1, depth, cs => do
      let (literal, rest) <- spanLiteral raw (depth == 0) false cs
      match rest with
      | '\x7b' :: rest =>
          if 2 ≤ depth then none
          else
            let (source, rest) <- spanSource (rest.length + 1) [] rest
            let (shown, rest) := match rest with
              | '=' :: more =>
                  let blanks := more.takeWhile Text.isBlank
                  (source ++ '=' :: blanks, more.dropWhile Text.isBlank)
              | _ => ([], rest)
            let rest <- match rest with
              | '!' :: c :: more =>
                  if c == 's' || c == 'r' || c == 'a' then some more else none
              | _ => some rest
            let (spec, rest) <- match rest with
              | ':' :: more => do
                  let (pieces, r) <- piecesOf raw fuel (depth + 1) more
                  some (some pieces, r)
              | _ => some (none, rest)
            match rest with
            | '\x7d' :: rest =>
                if source.all Text.isBlank then none
                else
                  let before := literal ++ shown
                  let (more, rest) <- piecesOf raw fuel depth rest
                  some ((if before.isEmpty then [] else [.literal before])
                    ++ .embedded source spec :: more, rest)
            | _ => none
      | _ => some (if literal.isEmpty then [] else [.literal literal], rest)

/-! ## Expressions -/

/-- What has been met among the parameters of a function. -/
structure Parameters where
  /-- A parameter without a star. -/
  plain : Bool
  /-- A parameter with a default. -/
  defaulted : Bool
  /-- The mark after which parameters may be named. -/
  slash : Bool
  /-- The star after which parameters must be named. -/
  star : Bool
  /-- The parameter that takes all other names, after which none may follow. -/
  last : Bool

mutual

/-- A conditional expression, an anonymous function, or anything tighter. -/
def readExpression : Nat -> Reader Expr
  | 0, _ => none
  | fuel + 1, ts =>
      match takeWord "lambda" ts with
      | some rest => do
          let rest <- readParameters fuel ⟨false, false, false, false, false⟩ ":" rest
          let (_, rest) <- readExpression fuel rest
          some (.excluded "Lambda", rest)
      | none => do
          let (yes, rest) <- readDisjunction fuel ts
          match takeWord "if" rest with
          | none => some (yes, rest)
          | some rest => do
              let (test, rest) <- readDisjunction fuel rest
              let rest <- takeWord "else" rest
              let (no, rest) <- readExpression fuel rest
              some (.choice test yes no, rest)

/-- The parameters of a function up to a closing mark. -/
def readParameters : Nat -> Parameters -> String -> List Token -> Option (List Token)
  | 0, _, _, _ => none
  | fuel + 1, met, close, ts =>
      match takeMark close ts with
      | some rest => some rest
      | none => do
          let plain (ts : List Token) : Option (List Token) := do
            let (_, rest) <- takeName ts
            match (if close == ":" then none else takeMark ":" rest) with
            | some rest => do some (<- readExpression fuel rest).2
            | none => some rest
          let (met, rest) <-
            (match ts with
            | .mark "/" :: rest =>
                if met.plain && !met.slash && !met.star then some ({ met with slash := true }, rest)
                else none
            | .mark "*" :: rest =>
                if met.star then none
                else
                  match rest with
                  | .mark "," :: .name _ :: _ => some ({ met with star := true }, rest)
                  | _ => do some ({ met with star := true }, (<- plain rest))
            | .mark "**" :: rest => do some ({ met with last := true }, (<- plain rest))
            | _ => do
                let rest <- plain ts
                match takeMark "=" rest with
                | some rest => do
                    let (_, rest) <- readExpression fuel rest
                    some ({ met with plain := true, defaulted := true }, rest)
                | none =>
                    if met.defaulted && !met.star then none
                    else some ({ met with plain := true }, rest))
          match takeMark "," rest with
          | some rest =>
              if met.last then takeMark close rest else readParameters fuel met close rest
          | none => takeMark close rest

/-- Operands of `or`. -/
def readDisjunction : Nat -> Reader Expr
  | 0, _ => none
  | fuel + 1, ts => do
      let (first, rest) <- readConjunction fuel ts
      let (more, rest) <- readMoreDisjuncts fuel rest
      some (if more.isEmpty then first else .disj (first :: more), rest)

/-- Further operands of `or`. -/
def readMoreDisjuncts : Nat -> Reader (List Expr)
  | 0, _ => none
  | fuel + 1, ts =>
      match takeWord "or" ts with
      | none => some ([], ts)
      | some rest => do
          let (e, rest) <- readConjunction fuel rest
          let (more, rest) <- readMoreDisjuncts fuel rest
          some (e :: more, rest)

/-- Operands of `and`. -/
def readConjunction : Nat -> Reader Expr
  | 0, _ => none
  | fuel + 1, ts => do
      let (first, rest) <- readInversion fuel ts
      let (more, rest) <- readMoreConjuncts fuel rest
      some (if more.isEmpty then first else .conj (first :: more), rest)

/-- Further operands of `and`. -/
def readMoreConjuncts : Nat -> Reader (List Expr)
  | 0, _ => none
  | fuel + 1, ts =>
      match takeWord "and" ts with
      | none => some ([], ts)
      | some rest => do
          let (e, rest) <- readInversion fuel rest
          let (more, rest) <- readMoreConjuncts fuel rest
          some (e :: more, rest)

/-- `not` before a comparison. -/
def readInversion : Nat -> Reader Expr
  | 0, _ => none
  | fuel + 1, ts =>
      match takeWord "not" ts with
      | some rest => do
          let (e, rest) <- readInversion fuel rest
          some (.unary .not e, rest)
      | none => do
          let (first, rest) <- readBinary fuel 0 ts
          let (more, rest) <- readComparisons fuel rest
          some (if more.isEmpty then first else .compare first more, rest)

/-- The comparisons that follow an operand. -/
def readComparisons : Nat -> Reader (List (CompareOp × Expr))
  | 0, _ => none
  | fuel + 1, ts =>
      match takeComparison ts with
      | none => some ([], ts)
      | some (op, rest) => do
          let (e, rest) <- readBinary fuel 0 rest
          let (more, rest) <- readComparisons fuel rest
          some ((op, e) :: more, rest)

/-- Binary operators of a level and the tighter ones. -/
def readBinary : Nat -> Nat -> Reader Expr
  | 0, _, _ => none
  | fuel + 1, level, ts =>
      if 6 ≤ level then readFactor fuel ts
      else do
        let (left, rest) <- readBinary fuel (level + 1) ts
        readMoreBinary fuel level left rest

/-- Further operands of a level, grouped to the left. -/
def readMoreBinary : Nat -> Nat -> Expr -> Reader Expr
  | 0, _, _, _ => none
  | fuel + 1, level, left, ts =>
      match ts with
      | .mark m :: rest =>
          match binaryAt? level m with
          | some op => do
              let (right, rest) <- readBinary fuel (level + 1) rest
              readMoreBinary fuel level (.binary op left right) rest
          | none => some (left, ts)
      | _ => some (left, ts)

/-- Signs before a power. -/
def readFactor : Nat -> Reader Expr
  | 0, _ => none
  | fuel + 1, ts =>
      let signed (op : UnaryOp) (rest : List Token) : Option (Expr × List Token) := do
        let (e, rest) <- readFactor fuel rest
        some (.unary op e, rest)
      match ts with
      | .mark "-" :: rest => signed .neg rest
      | .mark "+" :: rest => signed .pos rest
      | .mark "~" :: rest => signed .invert rest
      | _ => do
          let awaited := takeWord "await" ts
          let (atom, rest) <- readAtom fuel (awaited.getD ts)
          let (e, rest) <- readTrailers fuel atom rest
          let e := if awaited.isSome then .excluded "Await" else e
          match takeMark "**" rest with
          | none => some (e, rest)
          | some rest => do
              let (power, rest) <- readFactor fuel rest
              some (.binary .pow e power, rest)

/-- What may follow an operand: a name, arguments, a key. -/
def readTrailers : Nat -> Expr -> Reader Expr
  | 0, _, _ => none
  | fuel + 1, e, ts =>
      match ts with
      | .mark "." :: rest => do
          let (name, rest) <- takeName rest
          readTrailers fuel (.field e name) rest
      | .mark "(" :: rest => do
          let ((args, named), rest) <- readArguments fuel true false false rest
          readTrailers fuel (.call e args named) rest
      | .mark "[" :: rest => do
          let (keys, tuple, rest) <- readKeys fuel rest
          let key := match keys, tuple with
            | [.starred x], _ => .tuple [.starred x]
            | [k], false => k
            | ks, _ => .tuple ks
          readTrailers fuel (.subscript e key) rest
      | _ => some (e, ts)

/-- The keys between square brackets, and whether a comma makes them a tuple. -/
def readKeys : Nat -> List Token -> Option (List Expr × Bool × List Token)
  | 0, _ => none
  | fuel + 1, ts => do
      let (key, rest) <-
        match takeMark "*" ts with
        | some rest => do
            let (e, rest) <- readBinary fuel 0 rest
            some (.starred e, rest)
        | none => readKey fuel ts
      match takeMark "]" rest with
      | some rest => some ([key], false, rest)
      | none => do
          let rest <- takeMark "," rest
          match takeMark "]" rest with
          | some rest => some ([key], true, rest)
          | none => do
              let (keys, _, rest) <- readKeys fuel rest
              some (key :: keys, true, rest)

/-- A key or a slice. -/
def readKey : Nat -> Reader Expr
  | 0, _ => none
  | fuel + 1, ts => do
      let bound (ts : List Token) : Option (Option Expr × List Token) :=
        if atMark ":" ts || atMark "," ts || atMark "]" ts then some (none, ts)
        else do
          let (e, rest) <- readExpression fuel ts
          some (some e, rest)
      if atMark "," ts || atMark "]" ts then none
      else
        let (lower, rest) <-
          if atMark ":" ts then some (none, ts)
          else do
            let (e, rest) <- readNamed fuel ts
            some (some e, rest)
        match takeMark ":" rest with
        | none => do some ((<- lower), rest)
        | some rest => do
            let (upper, rest) <- bound rest
            match takeMark ":" rest with
            | none => some (.slice lower upper none, rest)
            | some rest => do
                let (step, rest) <- bound rest
                some (.slice lower upper step, rest)

/-- An expression, or a name that is given a value on the way. -/
def readNamed : Nat -> Reader Expr
  | 0, _ => none
  | fuel + 1, ts =>
      match ts with
      | .name _ :: .mark ":=" :: rest => do
          let _ <- takeName ts
          let (_, rest) <- readExpression fuel rest
          some (.excluded "NamedExpr", rest)
      | _ => readExpression fuel ts

/-- An item of a display: an expression or a spread collection. -/
def readItem : Nat -> Reader Expr
  | 0, _ => none
  | fuel + 1, ts =>
      match takeMark "*" ts with
      | some rest => do
          let (e, rest) <- readBinary fuel 0 rest
          some (.starred e, rest)
      | none => readNamed fuel ts

/-- Items parted by commas up to a closing mark; says whether a comma was met. -/
def readItems : Nat -> String -> List Token -> Option (List Expr × Bool × List Token)
  | 0, _, _ => none
  | fuel + 1, close, ts =>
      match takeMark close ts with
      | some rest => some ([], false, rest)
      | none => do
          let (e, rest) <- readItem fuel ts
          match takeMark "," rest with
          | some rest => do
              let (more, _, rest) <- readItems fuel close rest
              some (e :: more, true, rest)
          | none => do
              let rest <- takeMark close rest
              some ([e], false, rest)

/-- The clauses of a collection built from others. -/
def readClauses : Nat -> Reader (List (Target × Expr × List Expr))
  | 0, _ => none
  | fuel + 1, ts =>
      let ts' := (takeWord "async" ts).getD ts
      match takeWord "for" ts' with
      | none => if atWord "async" ts then none else some ([], ts)
      | some rest => do
          let (target, rest) <- readTargets fuel rest
          let rest <- takeWord "in" rest
          let (source, rest) <- readDisjunction fuel rest
          let (conditions, rest) <- readConditions fuel rest
          let (more, rest) <- readClauses fuel rest
          some ((toTarget target, source, conditions) :: more, rest)

/-- The conditions of a clause. -/
def readConditions : Nat -> Reader (List Expr)
  | 0, _ => none
  | fuel + 1, ts =>
      match takeWord "if" ts with
      | none => some ([], ts)
      | some rest => do
          let (e, rest) <- readDisjunction fuel rest
          let (more, rest) <- readConditions fuel rest
          some (e :: more, rest)

/-- The targets before `in`. -/
def readTargets : Nat -> Reader Expr
  | 0, _ => none
  | fuel + 1, ts => do
      let (items, comma, rest) <- readTargetList fuel ts
      match items, comma with
      | [e], false => some (e, rest)
      | es, _ => some (.tuple es, rest)

/-- Targets parted by commas. -/
def readTargetList : Nat -> List Token -> Option (List Expr × Bool × List Token)
  | 0, _ => none
  | fuel + 1, ts => do
      let (e, rest) <-
        match takeMark "*" ts with
        | some rest => do
            let (e, rest) <- readBinary fuel 0 rest
            some (Expr.starred e, rest)
        | none => readBinary fuel 0 ts
      if !assignable e then none
      else
        match takeMark "," rest with
        | none => some ([e], false, rest)
        | some rest =>
            if atWord "in" rest then some ([e], true, rest)
            else do
              let (more, _, rest) <- readTargetList fuel rest
              some (e :: more, true, rest)

/--
The arguments of a call.  After a named argument only named and spread ones may
follow, after a spread mapping only named ones and mappings.  A collection built from
others needs no brackets of its own when it may be `alone` and is.
-/
def readArguments :
    Nat -> Bool -> Bool -> Bool -> Reader (List Expr × List (Option String × Expr))
  | 0, _, _, _, _ => none
  | fuel + 1, alone, named, spread, ts =>
      match ts with
      | .mark ")" :: rest => some (([], []), rest)
      | _ => do
          let ((args, names), spread', rest, sole) <-
            (match ts with
            | .mark "**" :: rest => do
                let (e, rest) <- readExpression fuel rest
                some ((([] : List Expr), [((none : Option String), e)]), true, rest, false)
            | .mark "*" :: rest =>
                if spread then none
                else do
                  let (e, rest) <- readExpression fuel rest
                  some (([.starred e], []), spread, rest, false)
            | .name n :: .mark "=" :: rest =>
                if reserved.contains n then none
                else do
                  let (e, rest) <- readExpression fuel rest
                  some (([], [(some n, e)]), spread, rest, false)
            | _ =>
                if named || spread then none
                else do
                  let (e, rest) <- readNamed fuel ts
                  let (clauses, rest) <- readClauses fuel rest
                  if clauses.isEmpty then some (([e], []), spread, rest, false)
                  else if alone then some (([.listOf e clauses], []), spread, rest, true)
                  else none)
          let named' := named || names.any fun (n, _) => n.isSome
          match rest with
          | .mark ")" :: rest => some ((args, names), rest)
          | .mark "," :: rest =>
              if sole then none
              else do
                let ((moreArgs, moreNames), rest) <- readArguments fuel false named' spread' rest
                some ((args ++ moreArgs, names ++ moreNames), rest)
          | _ => none

/-- A name, a literal, or a display between brackets. -/
def readAtom : Nat -> Reader Expr
  | 0, _ => none
  | fuel + 1, ts =>
      match ts with
      | .name "None" :: rest => some (.const .null, rest)
      | .name "True" :: rest => some (.const (.bool true), rest)
      | .name "False" :: rest => some (.const (.bool false), rest)
      | .name s :: rest => if reserved.contains s then none else some (.name s, rest)
      | .number v :: rest => some (.const v, rest)
      | .mark "..." :: rest => some (.const (.foreign "ellipsis"), rest)
      | .text _ :: _ => readTexts fuel ts
      | .bytes _ :: _ => readTexts fuel ts
      | .template _ _ :: _ => readTexts fuel ts
      | .mark "(" :: rest => readGroup fuel rest
      | .mark "[" :: rest =>
          match takeMark "]" rest with
          | some rest => some (.list [], rest)
          | none => do
              let (e, after) <- readItem fuel rest
              let (clauses, after) <- readClauses fuel after
              if !clauses.isEmpty then
                match e with
                | .starred _ => none
                | e => do some (.listOf e clauses, (<- takeMark "]" after))
              else do
                let (items, _, rest) <- readItems fuel "]" rest
                some (.list items, rest)
      | .mark "\x7b" :: rest => readBraces fuel rest
      | _ => none

/-- What stands between parentheses. -/
def readGroup : Nat -> Reader Expr
  | 0, _ => none
  | fuel + 1, ts =>
      match takeWord "yield" ts with
      | some rest => do
          let (e, rest) <- readYield fuel rest
          some (e, (<- takeMark ")" rest))
      | none =>
          match takeMark ")" ts with
          | some rest => some (.tuple [], rest)
          | none => do
              let (e, after) <- readItem fuel ts
              let (clauses, after) <- readClauses fuel after
              if !clauses.isEmpty then
                match e with
                | .starred _ => none
                | e => do some (.listOf e clauses, (<- takeMark ")" after))
              else
                match takeMark ")" after, e with
                | some _, .starred _ => none
                | some rest, e => some (e, rest)
                | none, _ => do
                    let (items, _, rest) <- readItems fuel ")" ts
                    some (.tuple items, rest)

/-- What follows `yield`. -/
def readYield : Nat -> Reader Expr
  | 0, _ => none
  | fuel + 1, ts =>
      match takeWord "from" ts with
      | some rest => do
          let (_, rest) <- readExpression fuel rest
          some (.excluded "YieldFrom", rest)
      | none =>
          match readList fuel ts with
          | some (_, rest) => some (.excluded "Yield", rest)
          | none => some (.excluded "Yield", ts)

/-- Expressions parted by commas without brackets; a comma makes them a tuple. -/
def readList : Nat -> Reader Expr
  | 0, _ => none
  | fuel + 1, ts => do
      let (items, comma, rest) <- readListItems fuel ts
      match items, comma with
      | [e], false => some (e, rest)
      | es, _ => some (.tuple es, rest)

/-- The items of a list without brackets. -/
def readListItems : Nat -> List Token -> Option (List Expr × Bool × List Token)
  | 0, _ => none
  | fuel + 1, ts => do
      let (e, rest) <-
        match takeMark "*" ts with
        | some rest => do
            let (e, rest) <- readBinary fuel 0 rest
            some (Expr.starred e, rest)
        | none => readExpression fuel ts
      match takeMark "," rest with
      | none => some ([e], false, rest)
      | some rest =>
          match readListItems fuel rest with
          | some (more, _, rest) => some (e :: more, true, rest)
          | none => some ([e], true, rest)

/-- What stands between braces: a dictionary or a set. -/
def readBraces : Nat -> Reader Expr
  | 0, _ => none
  | fuel + 1, ts =>
      match takeMark "\x7d" ts with
      | some rest => some (.dict [], rest)
      | none =>
          if atMark "**" ts then do
            let (entries, rest) <- readEntries fuel ts
            some (.dict entries, rest)
          else do
            let (e, after) <- readItem fuel ts
            match takeMark ":" after, e with
            | some after, e =>
                match e, ts with
                | .starred _, _ => none
                | .excluded "NamedExpr", .name _ :: .mark ":=" :: _ => none
                | e, _ => do
                    let (v, after) <- readExpression fuel after
                    let (clauses, after) <- readClauses fuel after
                    if !clauses.isEmpty then
                      some (.dictOf e v clauses, (<- takeMark "\x7d" after))
                    else do
                      let (entries, rest) <- readEntries fuel ts
                      some (.dict entries, rest)
            | none, e => do
                let (clauses, after) <- readClauses fuel after
                if !clauses.isEmpty then
                  match e with
                  | .starred _ => none
                  | _ => some (.excluded "SetComp", (<- takeMark "\x7d" after))
                else do
                  let (items, _, rest) <- readItems fuel "\x7d" ts
                  some (.set items, rest)

/-- The entries of a dictionary up to the closing brace. -/
def readEntries : Nat -> Reader (List (Option Expr × Expr))
  | 0, _ => none
  | fuel + 1, ts =>
      match takeMark "\x7d" ts with
      | some rest => some ([], rest)
      | none => do
          let (entry, rest) <-
            (match takeMark "**" ts with
            | some rest => do
                let (e, rest) <- readBinary fuel 0 rest
                some (((none : Option Expr), e), rest)
            | none => do
                let (k, rest) <- readExpression fuel ts
                let rest <- takeMark ":" rest
                let (v, rest) <- readExpression fuel rest
                some ((some k, v), rest))
          match takeMark "," rest with
          | some rest => do
              let (more, rest) <- readEntries fuel rest
              some (entry :: more, rest)
          | none => do some ([entry], (<- takeMark "\x7d" rest))

/-- Texts that stand side by side are one text. -/
def readTexts : Nat -> Reader Expr
  | 0, _ => none
  | fuel + 1, ts => do
      let isText : Token -> Bool
        | .text _ => true
        | .bytes _ => true
        | .template .. => true
        | _ => false
      let run := ts.takeWhile isText
      let rest := ts.dropWhile isText
      let isBytes : Token -> Bool
        | .bytes _ => true
        | _ => false
      let isTemplate : Token -> Bool
        | .template .. => true
        | _ => false
      if run.all isBytes then
        let data := run.flatMap fun t => match t with
          | .bytes d => d
          | _ => []
        some (.const (.bytes data), rest)
      else if run.any isBytes then none
      else if run.any isTemplate then do
        let parts <- readParts fuel run
        some (.joined parts, rest)
      else
        let s := String.join (run.map fun t => match t with
          | .text s => s
          | _ => "")
        some (.const (.str s), rest)

/-- The parts of texts that stand side by side. -/
def readParts : Nat -> List Token -> Option (List Expr)
  | 0, _ => none
  | _ + 1, [] => some []
  | fuel + 1, t :: rest => do
      let parts <- match t with
        | .text s => some [Expr.const (.str s)]
        | .template raw body => do
            let (pieces, _) <- piecesOf raw (body.length + 1) 0 body
            readPieces fuel raw pieces
        | _ => some []
      some (parts ++ (<- readParts fuel rest))

/-- The parts that pieces stand for. -/
def readPieces : Nat -> Bool -> List Piece -> Option (List Expr)
  | 0, _, _ => none
  | _ + 1, _, [] => some []
  | fuel + 1, raw, piece :: rest => do
      let part <- match piece with
        | .literal cs => do
            let cs <- literalChars ⟨raw, false, false⟩ cs
            some (Expr.const (.str (String.ofList cs)))
        | .embedded source spec => do
            let ts <- tokens? ('(' :: source ++ [')'])
            let (e, left) <- readList fuel ts
            match left with
            | [.newline] =>
                match spec with
                | none => some (.formatted e none)
                | some pieces => do
                    let parts <- readPieces fuel raw pieces
                    some (.formatted e (some (.joined parts)))
            | _ => none
      some (part :: (<- readPieces fuel raw rest))

end

end Reading

end Workflow
