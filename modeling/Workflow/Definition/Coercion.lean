import Workflow.Definition.Problem
import Workflow.Number.Reading
import Workflow.Text.Utf8
import Workflow.Text.Class

/-!
# Reading scalar fields

Fields accept values of their own type and those that stand for one: texts of numbers
and truth values, whole doubles for integers, and numbers or texts for moments.
-/

namespace Workflow

namespace Coercion

/-- A field that may be left empty. -/
def optional (read : Value -> Checked α) (v : Value) : Checked (Option α) :=
  match v with
  | .null => .ok none
  | v => (read v).map some

/-- The text of bytes. -/
def textOfBytes? (data : List UInt8) : Option String :=
  match Text.decodeUtf8 data with
  | .ok cs => some (String.ofList cs)
  | .error _ => none

/-- A text. -/
def text (v : Value) : Checked String :=
  match v with
  | .str s => .ok s
  | .markup s => .ok s
  | .bytes data =>
      match textOfBytes? data with
      | some s => .ok s
      | none => Checked.flawed .badTextBytes
  | _ => Checked.flawed .notText

/-- What is read where a text stands for another value: texts, and bytes that are one. -/
def written? (v : Value) : Option (Option String) :=
  match v with
  | .str s => some (some s)
  | .markup s => some (some s)
  | .bytes data => some (textOfBytes? data)
  | _ => none

/-- The truth value that a word stands for. -/
def truthOfWord? (s : String) : Option Bool :=
  let word := s.map Char.toLower
  if ["0", "off", "f", "false", "n", "no"].contains word then some false
  else if ["1", "on", "t", "true", "y", "yes"].contains word then some true
  else none

/-- Whether an integer lies strictly within the range of 64 bits with a sign. -/
def fitsWord (n : Int) : Bool :=
  n.natAbs < 9223372036854775808

/-- A truth value. -/
def truth (v : Value) : Checked Bool :=
  let ofInt (n : Int) : Checked Bool :=
    if !fitsWord n then Checked.flawed .notTruth
    else if n = 0 then .ok false
    else if n = 1 then .ok true
    else Checked.flawed .unreadTruth
  match v with
  | .bool b => .ok b
  | .int n => if n = -9223372036854775808 then Checked.flawed .unreadTruth else ofInt n
  | .float x =>
      match if Number.isWhole x then Number.truncFloat? x else none with
      | some n => ofInt n
      | none => Checked.flawed .notTruth
  | v =>
      match written? v with
      | some s =>
          match s.bind truthOfWord? with
          | some b => .ok b
          | none => Checked.flawed .unreadTruth
      | none => Checked.flawed .notTruth

/-- Blanks around numbers: white space without the four separators of control characters. -/
def isBlank (c : Char) : Bool :=
  Text.isBlank c && !(0x1c ≤ c.toNat && c.toNat ≤ 0x1f)

/-- Whether underscores stand only between other characters. -/
def barsBetween (cs : List Char) : Bool :=
  cs.head? != some '_' && cs.getLast? != some '_'
    && (cs.zip (cs.drop 1)).all fun (a, b) => !(a == '_' && b == '_')

/-- A text without its underscores, when they stand between other characters. -/
def dropBars (cs : List Char) : List Char :=
  if barsBetween cs then cs.filter (· != '_') else cs

/-- The digits of an integer after its sign: zeros at the front and a zero fraction fall away. -/
def wholeDigits? (cs : List Char) : Option (List Char) :=
  let dropFraction (cs : List Char) : List Char :=
    let tail := cs.dropWhile (· != '.')
    if !tail.isEmpty && (tail.drop 1).all (· == '0') then cs.takeWhile (· != '.') else cs
  match cs with
  | [] => none
  | '0' :: _ =>
      let rest := cs.dropWhile fun c => c == '0' || c == '_'
      match rest with
      | [] => some (cs.drop (cs.length - 1))
      | '.' :: _ =>
          let before := (cs.take (cs.length - rest.length)).getLast?.getD '0'
          some (dropFraction (before :: rest))
      | c :: _ => if c.isDigit then some (dropFraction rest) else none
  | c :: _ => if c.isDigit then some (dropFraction cs) else none

/-- The longest text of an integer that is read. -/
def maxIntegerLength : Nat := 4300

/-- The integer a text stands for. -/
def integerOfText (s : String) : Checked Int :=
  let trimmed := Text.trim isBlank s.toList
  let (negative, body) := match trimmed with
    | '+' :: rest => (false, rest)
    | '-' :: rest => (true, rest)
    | cs => (false, cs)
  match (wholeDigits? body).map dropBars with
  | none => Checked.flawed .unreadInteger
  | some digits =>
      if digits.isEmpty || !digits.all Char.isDigit then Checked.flawed .unreadInteger
      else if maxIntegerLength < digits.length then Checked.flawed .longInteger
      else
        let n : Int := (Number.digitsValue? 10 digits).getD 0
        .ok (if negative then -n else n)

/-- An integer. -/
def integer (v : Value) : Checked Int :=
  match v with
  | .int n => .ok n
  | .bool b => .ok (if b then 1 else 0)
  | .float x =>
      match Number.truncFloat? x with
      | none => Checked.flawed .infinite
      | some n =>
          if !Number.isWhole x then Checked.flawed .fractional
          else if fitsWord n then .ok n
          else Checked.flawed .longInteger
  | v =>
      match written? v with
      | some (some s) => integerOfText s
      | some none => Checked.flawed .unreadInteger
      | none => Checked.flawed .notInteger

/-- The double a text stands for. -/
def numberOfText? (s : String) : Option Float :=
  let cs := s.toList
  let plain := if cs.contains '_' then dropBars cs else Text.trim isBlank cs
  if plain.isEmpty || !plain.all (fun c => 0x20 < c.toNat && c.toNat < 0x7f && c != '_') then none
  else Number.readFloat? (String.ofList plain)

/-- A double. -/
def number (v : Value) : Checked Float :=
  match v with
  | .float x => .ok x
  | .bool b => .ok (if b then 1.0 else 0.0)
  | .int n =>
      match Number.floatOfInt? n with
      | some x => .ok x
      | none => Checked.flawed .notNumber
  | v =>
      match written? v with
      | some s =>
          match s.bind numberOfText? with
          | some x => .ok x
          | none => Checked.flawed .unreadNumber
      | none => Checked.flawed .notNumber

/-- A number that is at least another one. -/
def atLeast (least : Float) (shown : String) (x : Float) : Checked Float :=
  if least ≤ x then .ok x else Checked.flawed (.below shown)

/-- A number that is at most another one. -/
def atMost (greatest : Float) (shown : String) (x : Float) : Checked Float :=
  if x ≤ greatest then .ok x else Checked.flawed (.above shown)

/-- A number above another one. -/
def above (bound : Float) (shown : String) (x : Float) : Checked Float :=
  if bound < x then .ok x else Checked.flawed (.notAbove shown)

/-- An integer that is at least another one. -/
def integerAtLeast (least : Int) (n : Int) : Checked Int :=
  if least ≤ n then .ok n else Checked.flawed (.below (toString least))

/-- An integer that is at most another one. -/
def integerAtMost (greatest : Int) (n : Int) : Checked Int :=
  if n ≤ greatest then .ok n else Checked.flawed (.above (toString greatest))

/-- A word of a list. -/
def word (words : List String) (find : String -> Option α) (v : Value) : Checked α :=
  match v.asText?.bind find with
  | some a => .ok a
  | none => Checked.flawed (.notWord words)

/-! ## Moments -/

/-- Numbers of seconds beyond this count as milliseconds. -/
def secondsLimit : Int := 20000000000

/--
The moment in universal time at some microseconds after 1970 began, or why there is none.
The year before the first one still counts as a year here.
-/
def momentAt (micro : Int) : Except String DateTime :=
  let origin : DateTime := ⟨⟨1970, 1, 1⟩, 0, 0, 0, 0, none⟩
  let low : DateTime := ⟨⟨0, 1, 1⟩, 0, 0, 0, 0, none⟩
  let high : DateTime := ⟨⟨9999, 12, 31⟩, 23, 59, 59, 999999, none⟩
  let face := origin.utcMicroseconds + micro
  if face < low.utcMicroseconds then .error "dates before 0000 are not supported as unix timestamps"
  else if high.utcMicroseconds < face then
    .error "dates after 9999 are not supported as unix timestamps"
  else .ok (DateTime.ofFaceMicroseconds face (some .utc))

/-- The moment of a number of seconds, or of milliseconds when it is large. -/
def momentOfSeconds (n : Int) : Except String DateTime :=
  momentAt (if n.natAbs ≤ secondsLimit.natAbs then n * 1000000 else n * 1000)

/--
The moment of a double: seconds, or milliseconds when it is large.  Its fraction is what
lies above the integer below it, to the nearest microsecond.
-/
def momentOfFloat (x : Float) : Except String DateTime :=
  let seconds := if 20000000000.0 < x.abs then x / 1000.0 else x
  match Number.truncFloat? seconds.floor with
  | some whole =>
      let micro := (Number.truncFloat? ((seconds - seconds.floor) * 1000000.0).round).getD 0
      momentAt (whole * 1000000 + micro)
  | none =>
      if x.isNaN then .error "NaN values not permitted"
      else if x < 0.0 then .error "dates before 0000 are not supported as unix timestamps"
      else .error "dates after 9999 are not supported as unix timestamps"

/-- The integer that a text is, when it is a sign and digits and fits a word. -/
def wholeNumeral? (s : String) : Option Int :=
  let cs := s.toList
  let digits := if cs.head? == some '+' || cs.head? == some '-' then cs.drop 1 else cs
  if digits.isEmpty || !digits.all Char.isDigit then none
  else
    let n : Int := (Number.digitsValue? 10 digits).getD 0
    if fitsWord n then some (if cs.head? == some '-' then -n else n) else none

/-- The double that a text is, when it is written with digits, a point and an exponent. -/
def decimalNumeral? (s : String) : Option Float :=
  if s.toList.all fun c => c.isDigit || ['+', '-', '.', 'e', 'E'].contains c then
    Number.readFloat? s
  else none

/-- The offset at the end of a moment, with or without a colon. -/
def readOffset? (cs : List Char) : Option (Option Int) :=
  match cs with
  | [] => some none
  | ['Z'] => some (some 0)
  | ['z'] => some (some 0)
  | sign :: rest => do
      let (hours, rest) <- DateTime.takeNumber? 2 rest
      let rest := match rest with
        | ':' :: more => more
        | rest => rest
      let (minutes, rest) <- DateTime.takeNumber? 2 rest
      let n : Int := (hours * 60 + minutes : Nat)
      if !rest.isEmpty || 59 < minutes || 24 ≤ hours then none
      else if sign == '+' then some (some n)
      else if sign == '-' || sign == '−' then some (some (-n))
      else none

/-- The fraction of a second after a point or a comma, in microseconds, cut after six digits. -/
def takeFraction? (cs : List Char) : Option (Nat × List Char) :=
  match cs with
  | c :: d :: rest =>
      if c == '.' || c == ',' then
        if d.isDigit then some (DateTime.takeFraction ('.' :: d :: rest)) else none
      else some (0, cs)
  | ['.'] => none
  | [','] => none
  | cs => some (0, cs)

/-- Read a date or a moment in ISO 8601. -/
def momentOfText? (s : String) : Option DateTime := do
  let dash : List Char -> Option (List Char)
    | '-' :: rest => some rest
    | _ => none
  let colon : List Char -> Option (List Char)
    | ':' :: rest => some rest
    | _ => none
  let (year, rest) <- DateTime.takeNumber? 4 s.toList
  let (month, rest) <- DateTime.takeNumber? 2 (<- dash rest)
  let (day, rest) <- DateTime.takeNumber? 2 (<- dash rest)
  if month == 0 || 12 < month || day == 0 || Date.daysInMonth year month < day then none
  else
    match rest with
    | [] => some ⟨⟨year, month, day⟩, 0, 0, 0, 0, none⟩
    | separator :: rest => do
        if ! ['T', 't', ' ', '_'].contains separator then none
        else
          let (hour, rest) <- DateTime.takeNumber? 2 rest
          let (minute, rest) <- DateTime.takeNumber? 2 (<- colon rest)
          let (second, rest) <- match rest with
            | ':' :: more => DateTime.takeNumber? 2 more
            | rest => some (0, rest)
          let (microsecond, rest) <- takeFraction? rest
          let offset <- readOffset? rest
          if 23 < hour || 59 < minute || 59 < second then none
          else some ⟨⟨year, month, day⟩, hour, minute, second, microsecond, offset.map Zone.ofMinutes⟩

/-- Why a text is not a moment: the first thing in the way of its date. -/
def unreadReason (s : String) : String :=
  let cs := s.toList
  let digitsAt (place count : Nat) : Bool := ((cs.drop place).take count).all Char.isDigit
  let numberAt (place count : Nat) : Nat :=
    ((DateTime.takeNumber? count (cs.drop place)).map (·.1)).getD 0
  let month := numberAt 5 2
  let day := numberAt 8 2
  if cs.length < 10 then "input is too short"
  else if !digitsAt 0 4 then "invalid character in year"
  else if cs[4]? != some '-' then "invalid date separator, expected \x60-\x60"
  else if !digitsAt 5 2 then "invalid character in month"
  else if cs[7]? != some '-' then "invalid date separator, expected \x60-\x60"
  else if !digitsAt 8 2 then "invalid character in day"
  else if month == 0 || 12 < month then "month value is outside expected range of 1-12"
  else if day == 0 || Date.daysInMonth (numberAt 0 4) month < day then "day value is outside expected range"
  else "unexpected extra characters at the end of the input"

/-- A moment of the calendar, which begins with the first year. -/
def reached (t : DateTime) : Checked DateTime :=
  if t.date.year == 0 then Checked.flawed (.unreachedMoment "year 0 is out of range") else .ok t

/-- The moment of a number. -/
def momentOfNumber (r : Except String DateTime) : Checked DateTime :=
  match r with
  | .ok t => reached t
  | .error reason => Checked.flawed (.unreachedMoment reason)

/-- The moment a text stands for: a date or a moment, or else a number of seconds. -/
def momentOfWritten (s : String) : Checked DateTime :=
  match momentOfText? s with
  | some t => reached t
  | none =>
      match wholeNumeral? s with
      | some n =>
          match momentOfSeconds n with
          | .ok t => reached t
          | .error reason => Checked.flawed (.unreadMoment reason)
      | none =>
          match (decimalNumeral? s).map momentOfFloat with
          | some (.ok t) => reached t
          | _ => Checked.flawed (.unreadMoment (unreadReason s))

/-- A moment. -/
def moment (v : Value) : Checked DateTime :=
  match v with
  | .datetime t => .ok t
  | .date d => .ok ⟨d, 0, 0, 0, 0, none⟩
  | .int n =>
      if fitsWord n then momentOfNumber (momentOfSeconds n)
      else
        match Number.floatOfInt? n with
        | some x => momentOfNumber (momentOfFloat x)
        | none => Checked.flawed .notMoment
  | .float x => momentOfNumber (momentOfFloat x)
  | v =>
      match written? v with
      | some (some s) => momentOfWritten s
      | some none => Checked.flawed (.unreadMoment "input is too short")
      | none => Checked.flawed .notMoment

end Coercion

end Workflow
