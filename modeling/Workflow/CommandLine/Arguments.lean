import Workflow.Text.Search

/-!
# Arguments of the command line

Options begin with one dash and a letter, or with two dashes and a word; other arguments
are operands.  A letter may stand together with others, or with its value; a word may
have its value after an equals sign.  Two dashes alone end the options.
-/

namespace Workflow

namespace CommandLine

/-- An option that a command knows. -/
structure OptionRule where
  /-- Its spellings, dashes included. -/
  spellings : List String
  takesValue : Bool

namespace OptionRule

/-- The spelling an option is known by. -/
def key (o : OptionRule) : String :=
  o.spellings.headD ""

end OptionRule

/-- An option that was given, with its value when it takes one. -/
structure Given where
  key : String
  value : String
  deriving Repr, DecidableEq

/-- Options and operands that were read. -/
structure Parsed where
  given : List Given
  operands : List String
  deriving Repr

namespace Parsed

/-- The values of an option in order. -/
def valuesOf (p : Parsed) (key : String) : List String :=
  (p.given.filter (·.key == key)).map (·.value)

/-- Whether an option was given. -/
def has (p : Parsed) (key : String) : Bool :=
  p.given.any (·.key == key)

end Parsed

/-- The rule of a spelling. -/
def ruleOf? (rules : List OptionRule) (spelling : String) : Option OptionRule :=
  rules.find? fun o => o.spellings.contains spelling

/-- A word and what follows its first equals sign. -/
def wordParts (arg : String) : String × Option String :=
  match Text.cutAt? ['='] arg.toList with
  | some (front, back) => (String.ofList front, some (String.ofList back))
  | none => (arg, none)

/-- Read the letters of an argument; the value of a letter is the rest, or the next argument. -/
def readLetters? (rules : List OptionRule) (next : Option String) :
    List Char -> Option (List Given × Bool)
  | [] => some ([], false)
  | c :: rest => do
      let rule <- ruleOf? rules (String.ofList ['-', c])
      if rule.takesValue then
        if rest.isEmpty then do some ([⟨rule.key, <- next⟩], true)
        else some ([⟨rule.key, String.ofList rest⟩], false)
      else do
        let (more, used) <- readLetters? rules next rest
        some (⟨rule.key, ""⟩ :: more, used)

/-- Read an option; whether it took the next argument for its value. -/
def readOption? (rules : List OptionRule) (arg : String) (next : Option String) :
    Option (List Given × Bool) :=
  let (word, attached) := wordParts arg
  let spelled := if word.length == 2 && !arg.startsWith "--" then none else ruleOf? rules word
  match spelled, attached with
  | some rule, some value => if rule.takesValue then some ([⟨rule.key, value⟩], false) else none
  | some rule, none =>
      if rule.takesValue then do some ([⟨rule.key, <- next⟩], true)
      else some ([⟨rule.key, ""⟩], false)
  | none, _ => if arg.startsWith "--" then none else readLetters? rules next (arg.toList.drop 1)

/-- Whether an argument is written like an option. -/
def looksLikeOption (arg : String) : Bool :=
  arg.startsWith "-" && arg != "-"

/--
Read arguments; `none` when an option is not known or lacks its value.  Without
`mixed`, everything from the first operand on is left as operands.
-/
def readArguments? (rules : List OptionRule) (mixed : Bool) : List String -> Option Parsed
  | [] => some ⟨[], []⟩
  | arg :: rest =>
      if arg == "--" then some ⟨[], rest⟩
      else if looksLikeOption arg then do
        let (given, used) <- readOption? rules arg rest.head?
        if used then
          match rest with
          | [] => none
          | _ :: rest => do
              let p <- readArguments? rules mixed rest
              some { p with given := given ++ p.given }
        else do
          let p <- readArguments? rules mixed rest
          some { p with given := given ++ p.given }
      else if mixed then do
        let p <- readArguments? rules mixed rest
        some { p with operands := arg :: p.operands }
      else some ⟨[], arg :: rest⟩

end CommandLine

end Workflow
