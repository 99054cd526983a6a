import Workflow.Number.Reading
import Workflow.Text.Quoted
import Workflow.Value.Absence

/-!
# Texts of values

Each value has a literal text, which shows it as the expression language writes it,
and a plain text, which differs from the literal one for texts and moments.
-/

namespace Workflow

namespace Value

/-- Words joined by a separator. -/
def joinWith (separator : String) (words : List String) : String :=
  separator.intercalate words

/-- The literal text of a span of time: days, seconds and microseconds that are not zero. -/
def spanLiteral (n : Int) : String :=
  let day : Int := 86400000000
  let part (name : String) (k : Int) : List String := if k = 0 then [] else [s!"{name}={k}"]
  let parts := part "days" (n / day) ++ part "seconds" (n % day / 1000000)
    ++ part "microseconds" (n % 1000000)
  let shown := if parts.isEmpty then "0" else joinWith ", " parts
  s!"datetime.timedelta({shown})"

/-- The plain text of a span of time: whole days, then hours, minutes and seconds. -/
def spanText (n : Int) : String :=
  let day : Int := 86400000000
  let days := n / day
  let rest := (n % day).toNat
  let seconds := rest / 1000000
  let count := if days = 0 then "" else if days.natAbs = 1 then s!"{days} day, " else s!"{days} days, "
  let fraction := if rest % 1000000 = 0 then "" else "." ++ padded 6 (rest % 1000000)
  s!"{count}{seconds / 3600}:{padded 2 (seconds / 60 % 60)}:{padded 2 (seconds % 60)}{fraction}"

/-- The literal text of a zone. -/
def zoneLiteral (z : Zone) : String :=
  let offset := spanLiteral (z.minutes * 60000000)
  match z.name with
  | some name =>
      let quoted := Text.quoted name
      s!"datetime.timezone({offset}, {quoted})"
  | none => if z.minutes = 0 then "datetime.timezone.utc" else s!"datetime.timezone({offset})"

/-- The literal text of a moment. -/
def momentLiteral (t : DateTime) : String :=
  let fields := [t.date.year, t.date.month, t.date.day, t.hour, t.minute]
    ++ (if t.second = 0 && t.microsecond = 0 then [] else [t.second])
    ++ (if t.microsecond = 0 then [] else [t.microsecond])
  let zone := match t.zone with
    | none => ""
    | some z => ", tzinfo=" ++ zoneLiteral z
  let numbers := joinWith ", " (fields.map toString)
  s!"datetime.datetime({numbers}{zone})"

/-- The text of a part of a complex number: whole numbers have no fraction. -/
def complexPart (x : Float) : String :=
  let s := Number.floatText x
  if s.endsWith ".0" then (s.dropEnd 2).toString else s

/-- The text of a complex number; a real part of zero is left out. -/
def complexText (re im : Float) : String :=
  let part := complexPart im
  if re == 0.0 && !Number.signBit re then part ++ "j"
  else
    let signed := if part.startsWith "-" then part else "+" ++ part
    s!"({complexPart re}{signed}j)"

mutual

/-- The literal text of a value. -/
def literal : Value -> String
  | null => "None"
  | bool true => "True"
  | bool false => "False"
  | int n => toString n
  | float x => Number.floatText x
  | str s => Text.quoted s
  | list items => "[" ++ joinWith ", " (literals items) ++ "]"
  | tuple [x] => "(" ++ literal x ++ ",)"
  | tuple items => "(" ++ joinWith ", " (literals items) ++ ")"
  | dict entries => "\x7b" ++ joinWith ", " (entryLiterals entries) ++ "\x7d"
  | sealed entries => "mappingproxy(\x7b" ++ joinWith ", " (entryLiterals entries) ++ "\x7d)"
  | set [] => "set()"
  | set items => "\x7b" ++ joinWith ", " (literals items) ++ "\x7d"
  | bytes data => Text.quotedBytes data
  | datetime t => momentLiteral t
  | date d => s!"datetime.date({d.year}, {d.month}, {d.day})"
  | object _ (foreign "list") => "[...]"
  | object _ (foreign "dict") => "\x7b...\x7d"
  | object _ (foreign "set") => "set(...)"
  | object _ content => literal content
  | complex re im => complexText re im
  | span n => spanLiteral n
  | function name =>
      if name == "lower" || name == "upper" then "<function <lambda>>"
      else s!"<built-in function {name}>"
  | converter name => s!"<class '{name}'>"
  | method _ name => s!"<built-in method {name}>"
  | view .keys owner => "dict_keys([" ++ joinWith ", " (viewLiterals .keys owner) ++ "])"
  | view .values owner => "dict_values([" ++ joinWith ", " (viewLiterals .values owner) ++ "])"
  | view .items owner => "dict_items([" ++ joinWith ", " (viewLiterals .items owner) ++ "])"
  | range start stop 1 => s!"range({start}, {stop})"
  | range start stop step => s!"range({start}, {stop}, {step})"
  | stream kind _ => s!"<{kind} object>"
  | markup s => s!"Markup({Text.quoted s})"
  | undefined .. => "Undefined"
  | slot .. => "<object>"
  | foreign "ellipsis" => "Ellipsis"
  | foreign kind => s!"<{kind}>"

/-- The literal texts of items. -/
def literals : List Value -> List String
  | [] => []
  | x :: rest => literal x :: literals rest

/-- The literal texts of entries, key and value parted by a colon. -/
def entryLiterals : List (Value × Value) -> List String
  | [] => []
  | (k, v) :: rest => (literal k ++ ": " ++ literal v) :: entryLiterals rest

/-- The literal texts of what a view shows of a dictionary. -/
def viewLiterals (kind : ViewKind) : Value -> List String
  | dict entries =>
      match kind with
      | .keys => keyLiterals entries
      | .values => valueLiterals entries
      | .items => pairLiterals entries
  | sealed entries =>
      match kind with
      | .keys => keyLiterals entries
      | .values => valueLiterals entries
      | .items => pairLiterals entries
  | object _ content => viewLiterals kind content
  | _ => []

/-- The literal texts of the keys of entries. -/
def keyLiterals : List (Value × Value) -> List String
  | [] => []
  | (k, _) :: rest => literal k :: keyLiterals rest

/-- The literal texts of the values of entries. -/
def valueLiterals : List (Value × Value) -> List String
  | [] => []
  | (_, v) :: rest => literal v :: valueLiterals rest

/-- The literal texts of entries as pairs. -/
def pairLiterals : List (Value × Value) -> List String
  | [] => []
  | (k, v) :: rest => ("(" ++ literal k ++ ", " ++ literal v ++ ")") :: pairLiterals rest

end

/-- The plain text of a value. -/
def text : Value -> String
  | str s => s
  | markup s => s
  | datetime t => t.textWith ' '
  | date d => d.isoText
  | span n => spanText n
  | sealed entries => literal (dict entries)
  | undefined .. => ""
  | v => literal v

/-! ## Texts with a limit on digits -/

mutual

/-- Whether a value holds an integer with more digits than a text may have. -/
def exceedsDigits : Value -> Bool
  | int n => Nat.pow 10 Number.maxDigits ≤ n.natAbs
  | list xs => anyExceeds xs
  | tuple xs => anyExceeds xs
  | set xs => anyExceeds xs
  | dict entries => entriesExceed entries
  | sealed entries => entriesExceed entries
  | object _ content => exceedsDigits content
  | view _ owner => exceedsDigits owner
  | _ => false

/-- Whether an item holds an integer that is too long. -/
def anyExceeds : List Value -> Bool
  | [] => false
  | x :: rest => exceedsDigits x || anyExceeds rest

/-- Whether an entry holds an integer that is too long. -/
def entriesExceed : List (Value × Value) -> Bool
  | [] => false
  | (k, v) :: rest => exceedsDigits k || exceedsDigits v || entriesExceed rest

end

/-- The fault of writing an integer that is too long. -/
def tooManyDigits : Fault :=
  .badValue
    "Exceeds the limit (4300 digits) for integer string conversion; use sys.set_int_max_str_digits() to increase the limit"

/-- The plain text of a value, unless it holds an integer that is too long. -/
def textOf (v : Value) : Outcome String := do
  strictUse v
  if v.exceedsDigits then .error tooManyDigits else .ok v.text

/-- The literal text of a value, unless it holds an integer that is too long. -/
def literalOf (v : Value) : Outcome String :=
  if v.exceedsDigits then .error tooManyDigits else .ok v.literal

end Value

end Workflow
