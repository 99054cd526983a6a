import Workflow.Template.Reading

/-!
# Checking templates

Before a template is rendered, its blocks are checked to have different names, its
filters and tests to exist, and its loops not to assign to their loop variable.  Inside
a condition an unknown filter or test is found only when it is used.
-/

namespace Workflow

namespace Template

/-- The names of all filters. -/
def filterNames : List String :=
  ["abs", "attr", "batch", "capitalize", "center", "count", "d", "default", "dictsort", "e",
    "escape", "filesizeformat", "first", "float", "forceescape", "format", "groupby", "indent",
    "int", "items", "join", "json", "last", "length", "list", "lower", "map", "max", "min",
    "pprint", "random", "reject", "rejectattr", "replace", "reverse", "round", "safe", "select",
    "selectattr", "slice", "sort", "string", "striptags", "sum", "title", "tojson", "trim",
    "truncate", "unique", "upper", "urlencode", "urlize", "wordcount", "wordwrap", "xmlattr"]

/-- The names of all tests. -/
def testNames : List String :=
  ["!=", "<", "<=", "==", ">", ">=", "boolean", "callable", "defined", "divisibleby", "eq",
    "equalto", "escaped", "even", "false", "filter", "float", "ge", "greaterthan", "gt", "in",
    "integer", "iterable", "le", "lessthan", "lower", "lt", "mapping", "ne", "none", "number",
    "odd", "sameas", "sequence", "string", "test", "true", "undefined", "upper"]

/-! ## What a template mentions -/

mutual

/-- Whether a term reads a name. -/
def termMentions (id : String) : Nat -> Term -> Bool
  | 0, _ => false
  | fuel + 1, e =>
      let one := termMentions id fuel
      let opt (o : Option Term) : Bool := (o.map one).getD false
      match e with
      | .const _ => false
      | .name s => s == id
      | .unary _ e => one e
      | .binary _ l r => one l || one r
      | .conj l r => one l || one r
      | .disj l r => one l || one r
      | .concat ps => ps.any one
      | .compare e rest => one e || rest.any fun (_, e) => one e
      | .choice t y n _ => one t || one y || opt n
      | .call f a => one f || callMentions id fuel a
      | .field e _ => one e
      | .item e k => one e || one k
      | .slice e a b c => one e || opt a || opt b || opt c
      | .list es => es.any one
      | .tuple es => es.any one
      | .dict ps => ps.any fun (k, v) => one k || one v
      | .filter s _ a _ => opt s || callMentions id fuel a
      | .test s _ a _ => one s || callMentions id fuel a

/-- Whether arguments read a name. -/
def callMentions (id : String) : Nat -> Call Term -> Bool
  | 0, _ => false
  | fuel + 1, a =>
      let one := termMentions id fuel
      a.positional.any one || a.named.any (fun (_, e) => one e)
        || (a.spread.map one).getD false || (a.spreadNamed.map one).getD false

end

/-- Whether statements read a name outside of blocks. -/
def mentions (id : String) : Nat -> List Statement -> Bool
  | 0, _ => false
  | fuel + 1, body =>
      let inBody := mentions id fuel
      let inTerm := termMentions id fuel
      let opt (o : Option Term) : Bool := (o.map inTerm).getD false
      body.any fun s => match s with
        | .text _ => false
        | .print es => es.any inTerm
        | .forEach _ e t _ b o => inTerm e || opt t || inBody b || inBody o
        | .cond bs o => bs.any (fun (e, b) => inTerm e || inBody b) || inBody o
        | .within bs b => bs.any (fun (_, e) => inTerm e) || inBody b
        | .escaping e b => inTerm e || inBody b
        | .block .. => false
        | .defineMacro _ ps b _ => ps.any (fun (_, e) => opt e) || inBody b
        | .callWith ps f a b _ =>
            ps.any (fun (_, e) => opt e) || inTerm f || callMentions id fuel a || inBody b
        | .filtered e b => inTerm e || inBody b
        | .assign _ e => inTerm e
        | .assignText _ e b => opt e || inBody b
        | .load e => inTerm e

/-! ## Faults -/

/-- A check finds a fault or nothing. -/
abbrev Check := Except SourceFault Unit

/-- A fault with its wording. -/
def complain (line : Nat) (text : String) : Check :=
  .error ⟨line, some text⟩

/-- A name must be known, unless it stands inside a condition. -/
def checkKnown (soft : Bool) (word name : String) (known : List String) (line : Nat) : Check :=
  if soft || known.contains name then .ok ()
  else
    let quoted := Text.quoted name
    complain line s!"No {word} named {quoted}."

mutual

/-- Check the filters and tests of a term. -/
def checkTerm (soft : Bool) : Nat -> Term -> Check
  | 0, _ => .ok ()
  | fuel + 1, e => do
      let one := checkTerm soft fuel
      let opt (o : Option Term) : Check := (o.map one).getD (.ok ())
      match e with
      | .const _ => .ok ()
      | .name _ => .ok ()
      | .unary _ e => one e
      | .binary _ l r => do one l; one r
      | .conj l r => do one l; one r
      | .disj l r => do one l; one r
      | .concat ps => ps.forM one
      | .compare e rest => do one e; rest.forM fun (_, e) => one e
      | .choice t y n _ => do
          checkTerm true fuel t
          checkTerm true fuel y
          (n.map (checkTerm true fuel)).getD (.ok ())
      | .call f a => do one f; checkCall soft fuel a
      | .field e _ => one e
      | .item e k => do one e; one k
      | .slice e a b c => do one e; opt a; opt b; opt c
      | .list es => es.forM one
      | .tuple es => es.forM one
      | .dict ps => ps.forM fun (k, v) => do one k; one v
      | .filter s name a line => do
          checkKnown soft "filter" name filterNames line
          opt s
          checkCall soft fuel a
      | .test s name a line => do
          checkKnown soft "test" name testNames line
          one s
          checkCall soft fuel a

/-- Check the filters and tests of arguments. -/
def checkCall (soft : Bool) : Nat -> Call Term -> Check
  | 0, _ => .ok ()
  | fuel + 1, a => do
      let one := checkTerm soft fuel
      a.positional.forM one
      a.named.forM fun (_, e) => one e
      (a.spread.map one).getD (.ok ())
      (a.spreadNamed.map one).getD (.ok ())

end

/-- The line on which a place assigns to a name, if it does. -/
def placeLine? (id : String) : Nat -> Place -> Option Nat
  | 0, _ => none
  | fuel + 1, p =>
      match p with
      | .name s line => if s == id then some line else none
      | .several ps => ps.findSome? (placeLine? id fuel)
      | .field .. => none

/-- The line on which statements assign to a name, if they do. -/
def assignLine? (id : String) : Nat -> List Statement -> Option Nat
  | 0, _ => none
  | fuel + 1, body =>
      let inBody := assignLine? id fuel
      body.findSome? fun s => match s with
        | .forEach p _ _ _ b o =>
            ((placeLine? id fuel p).orElse fun _ => inBody b).orElse fun _ => inBody o
        | .cond bs o => (bs.findSome? fun (_, b) => inBody b).orElse fun _ => inBody o
        | .within _ b => inBody b
        | .escaping _ b => inBody b
        | .block _ _ _ b _ => inBody b
        | .defineMacro _ _ b _ => inBody b
        | .callWith _ _ _ b _ => inBody b
        | .filtered _ b => inBody b
        | .assign p _ => placeLine? id fuel p
        | .assignText p _ b => (placeLine? id fuel p).orElse fun _ => inBody b
        | _ => none

/-- A parameter `caller` needs a default in a macro that uses its caller. -/
def checkCaller (parameters : List (String × Option Term)) (body : List Statement) (fuel line : Nat) :
    Check :=
  match parameters.lookup "caller" with
  | some none =>
      if mentions "caller" fuel body then
        complain line
          "When defining macros or call blocks the special \"caller\" argument must be omitted or be given a default."
      else .ok ()
  | _ => .ok ()

/-- Check statements outside of blocks. -/
def checkBody (soft : Bool) : Nat -> List Statement -> Check
  | 0, _ => .ok ()
  | fuel + 1, body => body.forM fun s => do
      let term := checkTerm soft fuel
      let inner := checkTerm false fuel
      let opt (o : Option Term) : Check := (o.map inner).getD (.ok ())
      match s with
      | .text _ => .ok ()
      | .print es => es.forM term
      | .forEach p e t _ b o => do
          opt t
          match ((placeLine? "loop" fuel p).orElse fun _ => assignLine? "loop" fuel b).orElse
              fun _ => assignLine? "loop" fuel o with
          | some line => complain line "Can't assign to special loop variable in for-loop"
          | none => .ok ()
          term e
          checkBody false fuel b
          checkBody false fuel o
      | .cond bs o => do
          bs.forM fun (e, b) => do
            checkTerm true fuel e
            checkBody true fuel b
          checkBody true fuel o
      | .within bs b => do
          bs.forM fun (_, e) => term e
          checkBody false fuel b
      | .escaping e b => do
          inner e
          checkBody false fuel b
      | .block .. => .ok ()
      | .defineMacro _ ps b line => do
          checkCaller ps b fuel line
          ps.forM fun (_, e) => opt e
          checkBody false fuel b
      | .callWith ps f a b line => do
          checkCaller ps b fuel line
          ps.forM fun (_, e) => opt e
          checkBody false fuel b
          term f
          checkCall soft fuel a
      | .filtered e b => do
          checkBody false fuel b
          inner e
      | .assign _ e => term e
      | .assignText _ e b => do
          checkBody false fuel b
          opt e
      | .load e => term e

/-- A block: its name, its body and its line. -/
structure Block where
  name : String
  inherits : Bool
  required : Bool
  body : List Statement
  line : Nat

/-- All blocks of statements, outer ones first. -/
def blocksOf : Nat -> List Statement -> List Block
  | 0, _ => []
  | fuel + 1, body =>
      body.flatMap fun s => match s with
        | .forEach _ _ _ _ b o => blocksOf fuel b ++ blocksOf fuel o
        | .cond bs o => bs.flatMap (fun (_, b) => blocksOf fuel b) ++ blocksOf fuel o
        | .within _ b => blocksOf fuel b
        | .escaping _ b => blocksOf fuel b
        | .block name inherits required b line =>
            ⟨name, inherits, required, b, line⟩ :: blocksOf fuel b
        | .defineMacro _ _ b _ => blocksOf fuel b
        | .callWith _ _ _ b _ => blocksOf fuel b
        | .filtered _ b => blocksOf fuel b
        | .assignText _ _ b => blocksOf fuel b
        | _ => []

/-- Blocks must have different names. -/
def checkBlocks (seen : List String) : List Block -> Check
  | [] => .ok ()
  | b :: rest =>
      if seen.contains b.name then
        let quoted := Text.quoted b.name
        complain b.line s!"block {quoted} defined twice"
      else checkBlocks (b.name :: seen) rest

/-- Check a template; the fuel bounds how deeply it is nested. -/
def check (fuel : Nat) (body : List Statement) : Check := do
  let blocks := blocksOf fuel body
  checkBlocks [] blocks
  checkBody false fuel body
  blocks.forM fun b => checkBody false fuel b.body

end Template

end Workflow
