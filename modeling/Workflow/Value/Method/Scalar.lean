import Workflow.Value.Arguments

/-!
# Attributes and methods of numbers and moments
-/

namespace Workflow

namespace Value

/-- The names of the methods of integers. -/
def intMethods : List String :=
  ["as_integer_ratio", "bit_count", "bit_length", "conjugate", "from_bytes", "to_bytes"]

/-- The names of the methods of doubles. -/
def floatMethods : List String :=
  ["as_integer_ratio", "conjugate", "fromhex", "hex", "is_integer"]

/-- The names of the methods of moments. -/
def datetimeMethods : List String :=
  ["isoformat", "strftime", "date", "weekday", "isoweekday", "timestamp", "replace", "ctime",
    "toordinal", "utcoffset", "tzname", "dst"]

/-- The names of the methods of days. -/
def dateMethods : List String :=
  ["isoformat", "strftime", "weekday", "isoweekday", "replace", "ctime", "toordinal"]

/-- The names of the methods of spans of time. -/
def spanMethods : List String := ["total_seconds"]

/-- The names of the methods of complex numbers. -/
def complexMethods : List String := ["conjugate"]

/-- Data read from a scalar by name. -/
def scalarAttribute? (v : Value) (name : String) : Option Value :=
  match v.bare with
  | .float x =>
      match name with
      | "real" => some (.float x)
      | "imag" => some (.float 0.0)
      | _ => none
  | complex re im =>
      match name with
      | "real" => some (.float re)
      | "imag" => some (.float im)
      | _ => none
  | span n =>
      match name with
      | "days" => some (int (n / 86400000000))
      | "seconds" => some (int (n % 86400000000 / 1000000))
      | "microseconds" => some (int (n % 1000000))
      | _ => none
  | datetime t =>
      match name with
      | "year" => some (int t.date.year)
      | "month" => some (int t.date.month)
      | "day" => some (int t.date.day)
      | "hour" => some (int t.hour)
      | "minute" => some (int t.minute)
      | "second" => some (int t.second)
      | "microsecond" => some (int t.microsecond)
      | "fold" => some (int 0)
      | "tzinfo" => some (if t.offset.isSome then foreign "datetime.timezone" else null)
      | _ => none
  | date d =>
      match name with
      | "year" => some (int d.year)
      | "month" => some (int d.month)
      | "day" => some (int d.day)
      | _ => none
  | range start stop step =>
      match name with
      | "start" => some (int start)
      | "stop" => some (int stop)
      | "step" => some (int step)
      | _ => none
  | v =>
      match v.asInt? with
      | none => none
      | some n =>
          match name with
          | "real" => some (int n)
          | "imag" => some (int 0)
          | "numerator" => some (int n)
          | "denominator" => some (int 1)
          | _ => none

/-- The order of bytes an argument names: whether the least significant one comes first. -/
def littleEndian (full : String) (v : Value) : Outcome Bool :=
  match v with
  | str "little" => .ok true
  | str "big" => .ok false
  | str _ => .error (.badValue "byteorder must be either 'little' or 'big'")
  | v => .error (.badArgument s!"{full}() argument 'byteorder' must be str, not {argumentKind v}")

/-- The bytes of an integer, in two's complement when it is signed. -/
def bytesOfInt (n : Int) (a : Arguments) : Outcome Value := do
  a.atMost "to_bytes" 3
  if 2 < a.positional.length then
    .error (.badArgument
      s!"to_bytes() takes at most 2 positional arguments ({a.positional.length} given)")
  else do
    a.onlyNamed "to_bytes" ["length", "byteorder", "signed"]
    let size <- sizeArgument ((a.at? 0 "length").getD (int 1))
    let little <- littleEndian "to_bytes" ((a.at? 1 "byteorder").getD (str "big"))
    let signed := ((a.named.lookup "signed").getD (bool false)).truthy
    let span : Int := Nat.pow 256 size.toNat
    if size < 0 then .error (.badValue "length argument must be non-negative")
    else if n < 0 && !signed then
      .error (.overflow "can't convert negative int to unsigned")
    else if (if signed then 2 * n < -span || span ≤ 2 * n else span ≤ n) && n != 0 then
      .error (.overflow "int too big to convert")
    else
      let m := (n % span).toNat
      let digits := (List.range size.toNat).map fun i => UInt8.ofNat (m / Nat.pow 256 i % 256)
      .ok (bytes (if little then digits else digits.reverse))

/-- The integer that some bytes stand for. -/
def intOfBytes (a : Arguments) : Outcome Value := do
  a.atMost "from_bytes" 3
  if 2 < a.positional.length then
    .error (.badArgument
      s!"from_bytes() takes at most 2 positional arguments ({a.positional.length} given)")
  else do
    a.onlyNamed "from_bytes" ["bytes", "byteorder", "signed"]
    match a.at? 0 "bytes" with
    | none => .error (.badArgument "from_bytes() missing required argument 'bytes' (pos 1)")
    | some v => do
        let little <- littleEndian "from_bytes" ((a.at? 1 "byteorder").getD (str "big"))
        let cannot : Fault := .badArgument s!"cannot convert '{v.kind}' object to bytes"
        let xs <- match v.bare with
          | str _ => Except.error cannot
          | _ => v.items.mapError fun _ => cannot
        let digits <- xs.mapM fun x => do
          let n <- indexArgument x
          if 0 ≤ n && n < 256 then pure n.toNat
          else .error (.badValue "bytes must be in range(0, 256)")
        let digits := if little then digits.reverse else digits
        let m : Nat := digits.foldl (fun acc d => acc * 256 + d) 0
        let negative := ((a.named.lookup "signed").getD (bool false)).truthy
          && 128 ≤ digits.headD 0
        .ok (int (if negative then (m : Int) - (Nat.pow 256 digits.length : Nat) else m))

/-- Call a method of an integer. -/
def callInt? (n : Int) (name : String) (a : Arguments) : Option (Outcome Value) :=
  let full := s!"int.{name}"
  match name with
  | "bit_length" => some do a.nothing full; .ok (int (Number.bitLength n.natAbs))
  | "bit_count" => some do
      a.nothing full
      .ok (int ((Nat.toDigits 2 n.natAbs).filter (· == '1')).length)
  | "conjugate" => some do a.nothing full; .ok (int n)
  | "as_integer_ratio" => some do a.nothing full; .ok (tuple [int n, int 1])
  | "to_bytes" => some (bytesOfInt n a)
  | "from_bytes" => some (intOfBytes a)
  | _ => none

/-- The ratio of a double in lowest terms. -/
def lowestTerms (m : Nat) (e : Int) : Nat × Nat :=
  let (num, den) := Number.dyadicRatio m e
  let g := Nat.gcd num den
  (num / g, den / g)

/-- The hexadecimal text of a finite double. -/
def hexFloat (negative : Bool) (m : Nat) (e : Int) : String :=
  let sign := if negative then "-" else ""
  if m = 0 then sign ++ "0x0.0p+0"
  else
    let lead := if m < Nat.pow 2 52 then "0" else "1"
    let fraction := String.ofList (Text.hexPadded 13 (m % Nat.pow 2 52))
    let power := if m < Nat.pow 2 52 then -1022 else e + 52
    let powerSign := if power < 0 then "-" else "+"
    s!"{sign}0x{lead}.{fraction}p{powerSign}{power.natAbs}"

/-- The digits in base sixteen at the front of a text, and what follows them. -/
def spanHex (cs : List Char) : List Nat × List Char :=
  let isDigit (c : Char) : Bool := c.isDigit || ('a' ≤ c.toLower && c.toLower ≤ 'f')
  ((cs.takeWhile isDigit).map fun c =>
      if c.isDigit then c.toNat - 48 else c.toLower.toNat - 87,
    cs.dropWhile isDigit)

/-- Read the exponent of two at the end of a double in base sixteen. -/
def hexExponent? (cs : List Char) : Option Int :=
  match cs with
  | [] => some 0
  | p :: rest =>
      let (negative, digits) := Number.splitSign rest
      if p.toLower == 'p' && !digits.isEmpty && digits.all Char.isDigit then
        let n : Nat := digits.foldl (fun acc c => acc * 10 + (c.toNat - 48)) 0
        some (if negative then -(n : Int) else n)
      else none

/-- Read a double from its text in base sixteen. -/
def floatOfHex (s : String) : Outcome Value :=
  let invalid : Outcome Value := .error (.badValue "invalid hexadecimal floating-point string")
  let (negative, cs) := Number.splitSign (Text.trim Text.isBlank s.toList)
  let signed (x : Float) : Value := .float (if negative then -x else x)
  let word := String.ofList (cs.map Char.toLower)
  if word == "inf" || word == "infinity" then .ok (signed (1.0 / 0.0))
  else if word == "nan" then .ok (signed (0.0 / 0.0))
  else
    let digits := if (String.ofList (cs.take 2)).toLower == "0x" then cs.drop 2 else cs
    let (whole, rest) := spanHex digits
    let (fraction, rest) := match rest with
      | '.' :: more => spanHex more
      | _ => ([], rest)
    match hexExponent? rest with
    | none => invalid
    | some e =>
        if whole.isEmpty && fraction.isEmpty then invalid
        else
          let m := (whole ++ fraction).foldl (fun acc d => acc * 16 + d) 0
          let e := e - 4 * fraction.length
          let tooLarge : Outcome Value :=
            .error (.overflow "hexadecimal value too large to represent as a float")
          if m = 0 || e < -20000 - 4 * (whole.length + fraction.length : Nat) then
            .ok (signed 0.0)
          else if 20000 < e then tooLarge
          else
            let (num, den) := Number.dyadicRatio m e
            match Number.nearestFloat? negative num den with
            | some x => .ok (.float x)
            | none => tooLarge

/-- Call a method of a complex number. -/
def callComplex? (re im : Float) (name : String) (a : Arguments) : Option (Outcome Value) :=
  match name with
  | "conjugate" => some do a.nothing "complex.conjugate"; .ok (complex re (-im))
  | _ => none

/-- Call a method of a double. -/
def callFloat? (x : Float) (name : String) (a : Arguments) : Option (Outcome Value) :=
  let full := s!"float.{name}"
  match name with
  | "is_integer" => some do a.nothing full; .ok (bool (Number.isWhole x))
  | "conjugate" => some do a.nothing full; .ok (.float x)
  | "fromhex" => some do
      match (<- a.one full) with
      | str s => floatOfHex s
      | _ => .error (.badArgument "bad argument type for built-in operation")
  | "hex" => some do
      a.nothing full
      match Number.Binary.ofFloat x with
      | .finite negative m e => .ok (str (hexFloat negative m e))
      | _ => .ok (str (Number.floatText x))
  | "as_integer_ratio" => some do
      a.nothing full
      match Number.Binary.ofFloat x with
      | .nan => .error (.badValue "cannot convert NaN to integer ratio")
      | .infinite _ => .error (.overflow "cannot convert Infinity to integer ratio")
      | .finite negative m e =>
          let (num, den) := lowestTerms m e
          .ok (tuple [int (if negative then -(num : Int) else num), int den])
  | _ => none

/-- The units a time of day may be cut at. -/
def timeUnits : List String :=
  ["auto", "hours", "minutes", "seconds", "milliseconds", "microseconds"]

/-- The time of day, cut at a unit. -/
def timeTextTo (t : DateTime) (unit : String) : String :=
  let minutes := s!"{padded 2 t.hour}:{padded 2 t.minute}"
  let seconds := s!"{minutes}:{padded 2 t.second}"
  match unit with
  | "hours" => padded 2 t.hour
  | "minutes" => minutes
  | "seconds" => seconds
  | "milliseconds" => s!"{seconds}.{padded 3 (t.microsecond / 1000)}"
  | "microseconds" => s!"{seconds}.{padded 6 t.microsecond}"
  | _ => t.timeText

/-- The ISO 8601 text of a moment, with a chosen separator and unit. -/
def momentText (t : DateTime) (a : Arguments) : Outcome Value := do
  a.atMost "isoformat" 2
  a.onlyNamed "isoformat" ["sep", "timespec"]
  let sep <- match (a.at? 0 "sep").getD (str "T") with
    | str s =>
        match s.toList with
        | [c] => pure c
        | _ => Except.error (Fault.badArgument
            "isoformat() argument 1 must be a unicode character, not str")
    | v => Except.error (Fault.badArgument
        s!"isoformat() argument 1 must be a unicode character, not {v.kind}")
  let unit <- match (a.at? 1 "timespec").getD (str "auto") with
    | str s => pure s
    | v => Except.error (Fault.badArgument s!"isoformat() argument 2 must be str, not {argumentKind v}")
  if timeUnits.contains unit then
    .ok (str (t.date.isoText ++ sep.toString ++ timeTextTo t unit
      ++ DateTime.offsetText t.offset))
  else .error (.badValue "Unknown timespec value")

/-- The names of the parts of a moment, in order. -/
def momentParts : List String :=
  ["year", "month", "day", "hour", "minute", "second", "microsecond"]

/-- Refuse a moment that does not exist. -/
def checkMoment (year month day hour minute second microsecond : Int) : Outcome Unit :=
  if year < 1 || 9999 < year then .error (.badValue s!"year {year} is out of range")
  else if month < 1 || 12 < month then .error (.badValue "month must be in 1..12")
  else if day < 1 || Date.daysInMonth year.toNat month.toNat < day then
    .error (.badValue "day is out of range for month")
  else if hour < 0 || 23 < hour then .error (.badValue "hour must be in 0..23")
  else if minute < 0 || 59 < minute then .error (.badValue "minute must be in 0..59")
  else if second < 0 || 59 < second then .error (.badValue "second must be in 0..59")
  else if microsecond < 0 || 999999 < microsecond then
    .error (.badValue "microsecond must be in 0..999999")
  else .ok ()

/-- The parts of a moment with some of them replaced by arguments. -/
def replacedParts (parts : List (String × Nat)) (a : Arguments) : Outcome (List Int) := do
  a.onlyNamed "replace" ((parts.map (·.1)) ++ ["tzinfo", "fold"])
  let rec go (place : Nat) : List (String × Nat) -> Outcome (List Int)
    | [] => .ok []
    | (name, old) :: rest => do
        let n <- match a.at? place name with
          | none => pure (old : Int)
          | some v => indexArgument v
        .ok (n :: (<- go (place + 1) rest))
  go 0 parts

/-- A moment with some parts replaced. -/
def replaceMoment (t : DateTime) (a : Arguments) : Outcome Value := do
  let parts := momentParts.zip
    [t.date.year, t.date.month, t.date.day, t.hour, t.minute, t.second, t.microsecond]
  match (<- replacedParts parts a) with
  | [year, month, day, hour, minute, second, microsecond] => do
      checkMoment year month day hour minute second microsecond
      let zone <- match a.at? 7 "tzinfo" with
        | none => pure t.zone
        | some null => pure none
        | some (foreign "datetime.timezone") => pure t.zone
        | some v => Except.error (Fault.badArgument
            s!"tzinfo argument must be None or of a tzinfo subclass, not type '{v.kind}'")
      .ok (datetime ⟨⟨year.toNat, month.toNat, day.toNat⟩, hour.toNat, minute.toNat,
        second.toNat, microsecond.toNat, zone⟩)
  | _ => .ok (datetime t)

/-- A day with some parts replaced. -/
def replaceDay (d : Date) (a : Arguments) : Outcome Value := do
  match (<- replacedParts [("year", d.year), ("month", d.month), ("day", d.day)] a) with
  | [year, month, day] => do
      checkMoment year month day 0 0 0 0
      .ok (date ⟨year.toNat, month.toNat, day.toNat⟩)
  | _ => .ok (date d)

/-- Call a method of a span of time. -/
def callSpan? (n : Int) (name : String) (a : Arguments) : Option (Outcome Value) :=
  match name with
  | "total_seconds" => some do
      a.nothing "datetime.timedelta.total_seconds"
      divideInts n 1000000
  | _ => none

/-- A pattern for a moment. -/
def patternArgument (a : Arguments) (full : String) : Outcome String := do
  let v <- a.one full
  match v with
  | str s => .ok s
  | v => .error (.badArgument s!"strftime() argument 1 must be str, not {argumentKind v}")

/-- Call a method of a moment. -/
def callDatetime? (t : DateTime) (name : String) (a : Arguments) : Option (Outcome Value) :=
  match name with
  | "isoformat" => some (momentText t a)
  | "replace" => some (replaceMoment t a)
  | "ctime" => some do a.nothing "datetime.datetime.ctime"; .ok (str (longText t))
  | "utcoffset" => some do
      a.nothing "datetime.datetime.utcoffset"
      .ok ((t.offset.map fun n => span (n * 60000000)).getD null)
  | "tzname" => some do
      a.nothing "datetime.datetime.tzname"
      .ok ((t.zone.map fun z => str (DateTime.zoneName z)).getD null)
  | "dst" => some do a.nothing "datetime.datetime.dst"; .ok null
  | "strftime" => some do .ok (str (formatMoment t (<- patternArgument a "strftime")))
  | "date" => some (.ok (date t.date))
  | "weekday" => some (.ok (int t.date.weekday))
  | "isoweekday" => some (.ok (int (t.date.weekday + 1)))
  | "toordinal" => some (.ok (int (t.date.dayNumber - 305)))
  | "timestamp" => some do
      let epoch : Int := (Date.mk 1970 1 1).dayNumber * 86400000000
      let m := t.utcMicroseconds - epoch
      .ok (.float ((Number.nearestFloat? (decide (m < 0)) m.natAbs 1000000).getD 0.0))
  | _ => none

/-- Call a method of a day. -/
def callDate? (d : Date) (name : String) (a : Arguments) : Option (Outcome Value) :=
  match name with
  | "isoformat" => some do a.nothing "datetime.date.isoformat"; .ok (str d.isoText)
  | "replace" => some (replaceDay d a)
  | "ctime" => some do a.nothing "datetime.date.ctime"; .ok (str (longText (startOfDay d)))
  | "strftime" => some do
      .ok (str (formatMoment (startOfDay d) (<- patternArgument a "strftime")))
  | "weekday" => some (.ok (int d.weekday))
  | "isoweekday" => some (.ok (int (d.weekday + 1)))
  | "toordinal" => some (.ok (int (d.dayNumber - 305)))
  | _ => none

end Value

end Workflow
