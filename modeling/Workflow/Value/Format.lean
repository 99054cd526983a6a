import Workflow.Value.Arithmetic
import Workflow.Number.Reading

/-!
# Formatting values

Format specifications (`*^10,.2f`), which place a value in a field, and the older
`%` directives.
-/

namespace Workflow

namespace Value

/-- Where a value stands in its field; `inside` puts the padding after the sign. -/
inductive Align where
  | left
  | right
  | center
  | inside
  deriving Repr, DecidableEq

/-- A format specification taken apart. -/
structure FormatSpec where
  fill : Char
  align : Option Align
  /-- `+` or a blank: what stands before a number that is not negative. -/
  sign : Option Char
  coerceZero : Bool
  alternate : Bool
  width : Nat
  /-- The mark between groups of digits. -/
  grouping : Option Char
  precision : Option Nat
  type : Option Char
  deriving Repr

/-- The alignment a character stands for. -/
def Align.ofChar? : Char -> Option Align
  | '<' => some .left
  | '>' => some .right
  | '^' => some .center
  | '=' => some .inside
  | _ => none

/-- Split ASCII digits off the front. -/
def spanAsciiDigits (cs : List Char) : List Char × List Char :=
  cs.span Char.isDigit

/-- The value of ASCII digits; no digits give zero. -/
def asciiNumber (cs : List Char) : Nat :=
  cs.foldl (fun acc c => acc * 10 + (c.toNat - '0'.toNat)) 0

/-- Take one character off the front when it is the given one. -/
def takeMark (c : Char) (cs : List Char) : Bool × List Char :=
  match cs with
  | d :: rest => if d == c then (true, rest) else (false, cs)
  | [] => (false, [])

/-- Read a format specification for a value of the given type. -/
def FormatSpec.read (kind spec : String) : Outcome FormatSpec := do
  let invalid : Outcome FormatSpec :=
    .error (.badValue s!"Invalid format specifier '{spec}' for object of type '{kind}'")
  let cs := spec.toList
  let (fill?, align, cs) : Option Char × Option Align × List Char :=
    match cs with
    | f :: a :: rest =>
        match Align.ofChar? a with
        | some al => (some f, some al, rest)
        | none =>
            match Align.ofChar? f with
            | some al => (none, some al, a :: rest)
            | none => (none, none, cs)
    | [f] =>
        match Align.ofChar? f with
        | some al => (none, some al, [])
        | none => (none, none, cs)
    | [] => (none, none, [])
  let (sign, cs) : Option Char × List Char :=
    match cs with
    | c :: rest => if c == '+' || c == '-' || c == ' ' then (some c, rest) else (none, cs)
    | [] => (none, [])
  let (coerceZero, cs) := takeMark 'z' cs
  let (alternate, cs) := takeMark '#' cs
  let (zero, cs) : Bool × List Char :=
    if fill?.isNone then takeMark '0' cs else (false, cs)
  let fill := fill?.getD (if zero then '0' else ' ')
  let align := align.orElse fun _ =>
    if zero then (if kind == "str" then some .left else some .inside) else none
  let (widthDigits, cs) := spanAsciiDigits cs
  let (grouping, cs) <- (do
    let (comma, cs) := takeMark ',' cs
    let (under, cs) := takeMark '_' cs
    if comma && under then
      Except.error (Fault.badValue "Cannot specify both ',' and '_'.")
    else
      let (comma', _) := takeMark ',' cs
      if comma' && under then
        Except.error (Fault.badValue "Cannot specify both ',' and '_'.")
      else
        pure (if comma then some ',' else if under then some '_' else none, cs))
  if 18 < widthDigits.length then
    .error (.badValue "Too many decimal digits in format string")
  else do
    let (point, cs) := takeMark '.' cs
    let (precisionDigits, cs) := if point then spanAsciiDigits cs else ([], cs)
    if point && precisionDigits.isEmpty then
      .error (.badValue "Format specifier missing precision")
    else if 18 < precisionDigits.length then
      .error (.badValue "Too many decimal digits in format string")
    else
      match cs with
      | _ :: _ :: _ => invalid
      | _ =>
          let type := cs.head?
          let groupingOk := match grouping, type with
            | none, _ => true
            | some _, none => true
            | some g, some t =>
                if ['d', 'e', 'f', 'g', 'E', 'G', 'F', '%'].contains t then true
                else ['b', 'o', 'x', 'X'].contains t && g == '_'
          if !groupingOk then
            let g := (grouping.getD ',').toString
            let t := (type.getD 's').toString
            .error (.badValue s!"Cannot specify '{g}' with '{t}'.")
          else
            .ok {
              fill, align, sign, coerceZero, alternate,
              width := asciiNumber widthDigits
              grouping
              precision := if point then some (asciiNumber precisionDigits) else none
              type }

/-- Place a text in a field. -/
def padField (fill : Char) (align : Align) (width : Nat) (head body : List Char) : List Char :=
  let missing := width - (head.length + body.length)
  let filler (n : Nat) := List.replicate n fill
  match align with
  | .left => head ++ body ++ filler missing
  | .right => filler missing ++ head ++ body
  | .center => filler (missing / 2) ++ head ++ body ++ filler (missing - missing / 2)
  | .inside => head ++ filler missing ++ body

/-- Put a zero-filled field after the sign of a number in text. -/
def zeroFill (width : Nat) (cs : List Char) : List Char :=
  match cs with
  | c :: rest =>
      if c == '-' || c == '+' then c :: Number.zeroPad (width - 1) rest
      else Number.zeroPad width cs
  | [] => Number.zeroPad width []

/-- Put a mark between groups of digits, counted from the right. -/
def groupDigits (size : Nat) (mark : Char) (ds : List Char) : List Char :=
  let rec go : Nat -> List Char -> List Char
    | _, [] => []
    | n, c :: rest => if n = size then mark :: c :: go 1 rest else c :: go (n + 1) rest
  (go 0 ds.reverse).reverse

/-- Grouped digits padded with zeros until head, digits and tail reach a width. -/
def groupedToWidth (size : Nat) (mark : Char) (width used : Nat) (ds : List Char) : List Char :=
  let rec go : Nat -> List Char -> List Char
    | 0, ds => groupDigits size mark ds
    | fuel + 1, ds =>
        let g := groupDigits size mark ds
        if width ≤ used + g.length then g else go fuel ('0' :: ds)
  go width ds

/-- The sign shown before a number. -/
def signText (sign : Option Char) (negative : Bool) : List Char :=
  if negative then ['-']
  else
    match sign with
    | some '+' => ['+']
    | some ' ' => [' ']
    | _ => []

/-- Lay out a number: sign, mark of the base, digits before the point, the rest. -/
def layNumber (f : FormatSpec) (size : Nat) (head digits tail : List Char) : String :=
  let zeroFill := f.fill == '0' && f.align == some .inside
  let digits := match f.grouping with
    | none => digits
    | some mark =>
        if zeroFill then groupedToWidth size mark f.width (head.length + tail.length) digits
        else groupDigits size mark digits
  String.ofList (padField f.fill (f.align.getD .right) f.width head (digits ++ tail))

/-- Exponent of the leading digit and digits of a finite double, at a number of significant digits. -/
def scientific (m : Nat) (e : Int) (count : Nat) : List Char × Int :=
  let d := Number.significantDigits m e count
  (d.digits, if m = 0 then 0 else d.point - 1)

/-- Digits before and after the point at a fixed number of places. -/
def fixedParts (m : Nat) (e : Int) (places : Nat) : List Char × List Char :=
  let ds := Number.zeroPad (places + 1) (Number.natDigits (Number.fixedPlaces m e places))
  (ds.take (ds.length - places), ds.drop (ds.length - places))

/-- `d.ddde+XX` split at the point: digits before it, and the rest. -/
def exponentParts (mark : Char) (alternate : Bool) (m : Nat) (e : Int) (places : Nat) :
    List Char × List Char :=
  let (ds, power) := scientific m e (places + 1)
  let fraction := ds.drop 1
  (ds.take 1,
    (if fraction.isEmpty && !alternate then [] else '.' :: fraction)
      ++ Number.exponentText mark 2 power)

/-- The general form: positional when the exponent is small, trailing zeros dropped. -/
def generalParts (mark : Char) (alternate keepPoint : Bool) (m : Nat) (e : Int) (precision : Nat) :
    List Char × List Char :=
  let precision := max precision 1
  let (ds, power) := scientific m e precision
  let limit : Int := if keepPoint then (precision : Int) - 1 else precision
  if -4 ≤ power && power < limit then
    let places := ((precision : Int) - 1 - power).toNat
    let (whole, fraction) := fixedParts m e places
    let fraction := if alternate then fraction else Number.dropTrailingZeros fraction
    let fraction := if keepPoint && fraction.isEmpty then ['0'] else fraction
    (whole, if fraction.isEmpty && !alternate then [] else '.' :: fraction)
  else
    let fraction := if alternate then ds.drop 1 else Number.dropTrailingZeros (ds.drop 1)
    (ds.take 1,
      (if fraction.isEmpty && !alternate then [] else '.' :: fraction)
        ++ Number.exponentText mark 2 power)

/-- Capital letters, for the forms whose type is written as a capital. -/
def raise (capital : Bool) (cs : List Char) : List Char :=
  if capital then cs.map Char.toUpper else cs

/-- The most places a number can be written with. -/
def maxPlaces : Nat := 2147483647

/-- Format a double of a type called `kind`. -/
def formatFloat (kind : String) (f : FormatSpec) (x : Float) : Outcome String :=
  let type := f.type
  if maxPlaces < f.precision.getD 0 then .error (.badValue "precision too big")
  else if !(type.isNone || ['e', 'E', 'f', 'F', 'g', 'G', 'n', '%'].contains (type.getD 'f')) then
    let t := (type.getD 'f').toString
    .error (.badValue s!"Unknown format code '{t}' for object of type '{kind}'")
  else
    let capital := type == some 'E' || type == some 'F' || type == some 'G'
    match Number.Binary.ofFloat x with
    | .nan =>
        .ok (layNumber { f with grouping := none } 3 (signText f.sign false)
          (raise capital ['n', 'a', 'n'] ++ (if type == some '%' then ['%'] else [])) [])
    | .infinite negative =>
        .ok (layNumber { f with grouping := none } 3 (signText f.sign negative)
          (raise capital ['i', 'n', 'f'] ++ (if type == some '%' then ['%'] else [])) [])
    | .finite negative m e =>
        let precision := f.precision.getD 6
        let (whole, rest) :=
          match type with
          | some 'e' => exponentParts 'e' f.alternate m e precision
          | some 'E' => exponentParts 'E' f.alternate m e precision
          | some 'g' => generalParts 'e' f.alternate false m e precision
          | some 'n' => generalParts 'e' f.alternate false m e precision
          | some 'G' => generalParts 'E' f.alternate false m e precision
          | some '%' =>
              let y := x.abs * 100.0
              match Number.Binary.ofFloat y with
              | .finite _ m' e' =>
                  let (w, fr) := fixedParts m' e' precision
                  (w, (if fr.isEmpty && !f.alternate then [] else '.' :: fr) ++ ['%'])
              | _ => (['i', 'n', 'f'], ['%'])
          | none =>
              match f.precision with
              | some p => generalParts 'e' f.alternate true m e p
              | none =>
                  let cs := Number.defaultLayout.write (Number.shortestDigits m e)
                  (cs.takeWhile Char.isDigit, cs.dropWhile Char.isDigit)
          | _ =>
              let (w, fr) := fixedParts m e precision
              (w, if fr.isEmpty && !f.alternate then [] else '.' :: fr)
        let isZero := (whole ++ rest.takeWhile (fun c => c == '.' || c.isDigit)).all
          (fun c => c == '0' || c == '.')
        let negative := negative && !(f.coerceZero && isZero)
        .ok (layNumber f 3 (signText f.sign negative) whole rest)

/-- The decimal digits of an integer, as long as there are not too many. -/
def decimalDigits (n : Int) : Outcome (List Char) :=
  if (int n).exceedsDigits then .error tooManyDigits else .ok (Nat.toDigits 10 n.natAbs)

/-- Format an integer of a type called `kind`. -/
def formatInt (kind : String) (f : FormatSpec) (n : Int) : Outcome String :=
  let type := f.type.getD 'd'
  if ['e', 'E', 'f', 'F', 'g', 'G', '%'].contains type then do
    formatFloat kind f (<- floatOfInt n)
  else if f.precision.isSome then
    .error (.badValue "Precision not allowed in integer format specifier")
  else if f.coerceZero then
    .error (.badValue "Negative zero coercion (z) not allowed in integer format specifier")
  else if type == 'c' then
    if f.sign.isSome then
      .error (.badValue "Sign not allowed with integer format specifier 'c'")
    else if f.alternate then
      .error (.badValue "Alternate form (#) not allowed with integer format specifier 'c'")
    else if n < 0 || 0x110000 ≤ n then
      .error (.overflow "%c arg not in range(0x110000)")
    else
      .ok (String.ofList
        (padField f.fill (f.align.getD .left) f.width [] [Char.ofNat n.toNat]))
  else
    let head := signText f.sign (decide (n < 0))
    let mark (c : Char) : List Char := if f.alternate then ['0', c] else []
    match type with
    | 'd' => do .ok (layNumber f 3 head (<- decimalDigits n) [])
    | 'n' => do .ok (layNumber f 3 head (<- decimalDigits n) [])
    | 'b' => .ok (layNumber f 4 (head ++ mark 'b') (Nat.toDigits 2 n.natAbs) [])
    | 'o' => .ok (layNumber f 4 (head ++ mark 'o') (Nat.toDigits 8 n.natAbs) [])
    | 'x' => .ok (layNumber f 4 (head ++ mark 'x') (Nat.toDigits 16 n.natAbs) [])
    | 'X' =>
        .ok (layNumber f 4 (head ++ mark 'X') ((Nat.toDigits 16 n.natAbs).map Char.toUpper) [])
    | c => .error (.badValue s!"Unknown format code '{c.toString}' for object of type '{kind}'")

/-- Format a text. -/
def formatText (kind : String) (f : FormatSpec) (s : String) : Outcome String :=
  if f.type != none && f.type != some 's' then
    let t := (f.type.getD 's').toString
    .error (.badValue s!"Unknown format code '{t}' for object of type '{kind}'")
  else if f.sign.isSome then
    .error (.badValue "Sign not allowed in string format specifier")
  else if f.coerceZero then
    .error (.badValue "Negative zero coercion (z) not allowed in string format specifier")
  else if f.alternate then
    .error (.badValue "Alternate form (#) not allowed in string format specifier")
  else if f.align == some .inside then
    .error (.badValue "'=' alignment not allowed in string format specifier")
  else if f.grouping.isSome then
    let g := (f.grouping.getD ',').toString
    .error (.badValue s!"Cannot specify '{g}' with 's'.")
  else
    let cs := match f.precision with
      | some p => s.toList.take p
      | none => s.toList
    .ok (String.ofList (padField f.fill (f.align.getD .left) f.width [] cs))

/-- The names of the days of the week, Monday first. -/
def dayNames : List String :=
  ["Monday", "Tuesday", "Wednesday", "Thursday", "Friday", "Saturday", "Sunday"]

/-- The names of the months. -/
def monthNames : List String :=
  ["January", "February", "March", "April", "May", "June", "July", "August", "September",
    "October", "November", "December"]

/-- A number of at most two digits, a blank standing for a missing one. -/
def blankPadded (n : Nat) : String :=
  if n < 10 then s!" {n}" else toString n

/-- The number of days of the year before a day. -/
def dayOfYear (d : Date) : Nat :=
  (d.dayNumber - (Date.mk d.year 1 1).dayNumber).toNat

/-- The week of a day, and the year it belongs to: weeks begin on Monday, and belong where their Thursday is. -/
def isoWeek (d : Date) : Nat × Nat :=
  let thursday := Date.ofDayNumber (d.dayNumber + 3 - d.weekday)
  (thursday.year, dayOfYear thursday / 7 + 1)

/-- Day of the week, day, time and year in words and numbers. -/
def longText (t : DateTime) : String :=
  let d := t.date
  let day := ((dayNames.getD d.weekday "").take 3).toString
  let month := ((monthNames.getD (d.month - 1) "").take 3).toString
  let time := s!"{padded 2 t.hour}:{padded 2 t.minute}:{padded 2 t.second}"
  s!"{day} {month} {blankPadded d.day} {time} {d.year}"

/-- The moment written by a pattern of `%` directives. -/
def formatMoment (t : DateTime) (pattern : String) : String :=
  String.join (go pattern.toList)
where
  /-- The text of one directive; an unknown one is left as it stands. -/
  directive (c : Char) : String :=
    let d := t.date
    let month := monthNames.getD (d.month - 1) ""
    let day := dayNames.getD d.weekday ""
    let hour12 := if t.hour % 12 = 0 then 12 else t.hour % 12
    match c with
    | 'Y' => toString d.year
    | 'm' => padded 2 d.month
    | 'd' => padded 2 d.day
    | 'H' => padded 2 t.hour
    | 'M' => padded 2 t.minute
    | 'S' => padded 2 t.second
    | 'f' => padded 6 t.microsecond
    | 'y' => padded 2 (d.year % 100)
    | 'I' => padded 2 hour12
    | 'p' => if t.hour < 12 then "AM" else "PM"
    | 'j' => padded 3 (dayOfYear d + 1)
    | 'B' => month
    | 'b' => (month.take 3).toString
    | 'A' => day
    | 'a' => (day.take 3).toString
    | 'F' => d.isoText
    | 'T' => s!"{padded 2 t.hour}:{padded 2 t.minute}:{padded 2 t.second}"
    | 'z' => (DateTime.offsetText t.offset).replace ":" ""
    | 'Z' => (t.zone.map DateTime.zoneName).getD ""
    | 'C' => padded 2 (d.year / 100)
    | 'D' => s!"{padded 2 d.month}/{padded 2 d.day}/{padded 2 (d.year % 100)}"
    | 'x' => s!"{padded 2 d.month}/{padded 2 d.day}/{padded 2 (d.year % 100)}"
    | 'e' => blankPadded d.day
    | 'h' => (month.take 3).toString
    | 'k' => blankPadded t.hour
    | 'l' => blankPadded hour12
    | 'n' => "\n"
    | 't' => "\t"
    | 'P' => if t.hour < 12 then "am" else "pm"
    | 'R' => s!"{padded 2 t.hour}:{padded 2 t.minute}"
    | 'X' => s!"{padded 2 t.hour}:{padded 2 t.minute}:{padded 2 t.second}"
    | 'c' => longText t
    | 'u' => toString (d.weekday + 1)
    | 'w' => toString ((d.weekday + 1) % 7)
    | 'U' => padded 2 ((dayOfYear d + 7 - (d.weekday + 1) % 7) / 7)
    | 'W' => padded 2 ((dayOfYear d + 7 - d.weekday) / 7)
    | 'G' => toString (isoWeek d).1
    | 'g' => padded 2 ((isoWeek d).1 % 100)
    | 'V' => padded 2 (isoWeek d).2
    | '%' => "%"
    | c => "%" ++ c.toString
  /-- Replace the directives of a pattern. -/
  go : List Char -> List String
    | '%' :: c :: rest => directive c :: go rest
    | c :: rest => c.toString :: go rest
    | [] => []

/-- The start of a day. -/
def startOfDay (d : Date) : DateTime :=
  ⟨d, 0, 0, 0, 0, none⟩

/-- Format a complex number: each part by the specification, the two in a field. -/
def formatComplex (f : FormatSpec) (re im : Float) : Outcome String := do
  let kind := "complex"
  if f.align == some .inside then
    if f.fill == '0' then
      .error (.badValue "Zero padding is not allowed in complex format specifier")
    else .error (.badValue "'=' alignment flag is not allowed in complex format specifier")
  else
    let bareParts := f.type.isNone && f.precision.isNone
    let plain : FormatSpec := { f with width := 0, align := none, fill := ' ', type := if f.type.isNone then some 'g' else f.type }
    let part (sign : Option Char) (x : Float) : Outcome String :=
      if bareParts then
        let s := complexPart x
        .ok (if s.startsWith "-" then s
          else String.ofList (signText sign false) ++ s)
      else formatFloat kind { plain with sign } x
    let second <- part (some '+') im
    let whole <-
      if f.type.isNone && re == 0.0 && !Number.signBit re then do
        pure ((<- part f.sign im) ++ "j")
      else do
        let both := (<- part f.sign re) ++ second ++ "j"
        pure (if f.type.isNone then "(" ++ both ++ ")" else both)
    .ok (String.ofList (padField f.fill (f.align.getD .right) f.width [] whole.toList))

/-- Format a value by a specification; an empty one gives the plain text. -/
def format (v : Value) (spec : String) : Outcome String :=
  if spec.isEmpty then v.textOf
  else
    match v.bare with
    | str s => do formatText "str" (<- FormatSpec.read "str" spec) s
    | markup s => do formatText "str" (<- FormatSpec.read "str" spec) s
    | int n => do formatInt "int" (<- FormatSpec.read "int" spec) n
    | bool b => do formatInt "bool" (<- FormatSpec.read "bool" spec) (if b then 1 else 0)
    | float x => do formatFloat "float" (<- FormatSpec.read "float" spec) x
    | complex re im => do formatComplex (<- FormatSpec.read "complex" spec) re im
    | datetime t => .ok (formatMoment t spec)
    | date d => .ok (formatMoment (startOfDay d) spec)
    | v => .error (.badArgument s!"unsupported format string passed to {v.kind}.__format__")

/-! ## Percent directives -/

/-- The state of a formatting by directives: the arguments left, and what holds the named ones. -/
structure DirectiveArgs where
  positional : List Value
  /-- Whether the arguments were given as one value rather than as a tuple. -/
  single : Bool
  named : Option Value
  /-- Whether bytes are written rather than text. -/
  raw : Bool

/-- The argument under a name. -/
def namedArgument (holder key : Value) : Outcome Value :=
  match holder.entries? with
  | some entries =>
      match lookup? entries key with
      | some v => .ok v
      | none => .error (.keyAbsent key.literal)
  | none =>
      let kind := holder.kind
      let noun := if kind == "bytes" then "byte" else kind
      .error (.badArgument s!"{noun} indices must be integers or slices, not {key.kind}")

/-- One directive taken apart. -/
structure Directive where
  name : Option String
  flags : List Char
  width : Option Int
  precision : Option Int
  type : Char

/-- Write a number that is not negative or its opposite in a field with directive flags. -/
def directiveField (flags : List Char) (width : Nat) (head body : List Char) : String :=
  if flags.contains '-' then
    String.ofList (padField ' ' .left width head body)
  else if flags.contains '0' then
    String.ofList (padField '0' .inside width head body)
  else
    String.ofList (padField ' ' .right width head body)

/-- The sign a directive asks for. -/
def directiveSign (flags : List Char) : Option Char :=
  if flags.contains '+' then some '+' else if flags.contains ' ' then some ' ' else none

/-- Bytes as the characters of the same numbers. -/
def byteChars (data : List UInt8) : String :=
  String.ofList (data.map fun b => Char.ofNat b.toNat)

/-- Write one argument by a directive. -/
def writeDirective (d : Directive) (raw : Bool) (v : Value) : Outcome String := do
  let width := (d.width.getD 0).natAbs
  let flags := if (d.width.getD 0) < 0 then '-' :: d.flags else d.flags
  let textField (s : String) : String :=
    let cs := match d.precision with
      | some p => s.toList.take p.toNat
      | none => s.toList
    let align : Align := if flags.contains '-' then .left else .right
    String.ofList (padField ' ' align width [] cs)
  let integer (n : Int) (base : Nat) (mark : List Char) (capital : Bool) : String :=
    let digits := raise capital (Nat.toDigits base n.natAbs)
    let digits := Number.zeroPad (d.precision.getD 0).toNat digits
    let mark := if flags.contains '#' then mark else []
    directiveField flags width (signText (directiveSign flags) (decide (n < 0)) ++ mark) digits
  let decimal (n : Int) : Outcome String :=
    if (int n).exceedsDigits then .error tooManyDigits else .ok (integer n 10 [] false)
  let whole (code : String) (needInt : Bool) : Outcome Int :=
    match v.bare with
    | .float x =>
        if needInt then
          .error (.badArgument s!"%{code} format: an integer is required, not float")
        else
          match Number.truncFloat? x with
          | some n => .ok n
          | none =>
              if x.isNaN then .error (.badValue "cannot convert float NaN to integer")
              else .error (.overflow "cannot convert float infinity to integer")
    | v =>
        match v.asInt? with
        | some n => .ok n
        | none =>
            if needInt then
              .error (.badArgument s!"%{code} format: an integer is required, not {v.kind}")
            else
              .error (.badArgument s!"%{code} format: a real number is required, not {v.kind}")
  let rawField : Outcome String :=
    match v with
    | bytes data => .ok (textField (byteChars data))
    | v => .error (.badArgument
        s!"%b requires a bytes-like object, or an object that implements __bytes__, not '{v.kind}'")
  match d.type with
  | 's' => if raw then rawField else do .ok (textField (<- v.textOf))
  | 'b' => rawField
  | 'r' => do
      let s <- v.literalOf
      .ok (textField (if raw then Text.asciiOnly s else s))
  | 'a' => do .ok (textField (Text.asciiOnly (<- v.literalOf)))
  | 'd' => do decimal (<- whole "d" false)
  | 'i' => do decimal (<- whole "i" false)
  | 'u' => do decimal (<- whole "u" false)
  | 'x' => do .ok (integer (<- whole "x" true) 16 ['0', 'x'] false)
  | 'X' => do .ok (integer (<- whole "X" true) 16 ['0', 'X'] true)
  | 'o' => do .ok (integer (<- whole "o" true) 8 ['0', 'o'] false)
  | 'c' =>
      match raw, v with
      | true, bytes data =>
          if data.length = 1 then .ok (textField (byteChars data))
          else .error (.badArgument
            "%c requires an integer in range(256) or a single byte")
      | true, v =>
          match v.asInt? with
          | some n =>
              if 0 ≤ n && n < 256 then .ok (textField (Char.ofNat n.toNat).toString)
              else .error (.overflow "%c arg not in range(256)")
          | none => .error (.badArgument
              "%c requires an integer in range(256) or a single byte")
      | false, str s =>
          if s.length = 1 then .ok (textField s)
          else .error (.badArgument "%c requires int or char")
      | false, v =>
          match v.asInt? with
          | some n =>
              if 0 ≤ n && n < 0x110000 then .ok (textField (Char.ofNat n.toNat).toString)
              else .error (.overflow "%c arg not in range(0x110000)")
          | none => .error (.badArgument "%c requires int or char")
  | c =>
      match v.asNumber? with
      | none => .error (.badArgument s!"must be real number, not {v.kind}")
      | some number => do
          let x <- number.toFloat
          let f : FormatSpec := {
            fill := if flags.contains '0' && !flags.contains '-' then '0' else ' '
            align := some (if flags.contains '-' then .left
              else if flags.contains '0' then .inside else .right)
            sign := directiveSign flags
            coerceZero := false
            alternate := flags.contains '#'
            width
            grouping := none
            precision := some ((d.precision.getD 6).toNat)
            type := some c }
          formatFloat "float" f x

/-- Take the next argument. -/
def nextArgument (args : DirectiveArgs) : Outcome (Value × DirectiveArgs) :=
  match args.positional with
  | v :: rest => .ok (v, { args with positional := rest })
  | [] => .error (.badArgument "not enough arguments for format string")

/-- A width or precision: digits, or a star that takes an argument; a size has a limit. -/
def starOrDigits (word : String) (limit : Int) (size : String) (cs : List Char)
    (args : DirectiveArgs) : Outcome (Option Int × List Char × DirectiveArgs) :=
  match cs with
  | '*' :: rest => do
      let (v, args) <- nextArgument args
      match v.asInt? with
      | some n =>
          if limit < n || n < -limit - 1 then
            .error (.overflow s!"Python int too large to convert to C {size}")
          else .ok (some n, rest, args)
      | none => .error (.badArgument "* wants int")
  | cs =>
      let (digits, rest) := spanAsciiDigits cs
      if limit < asciiNumber digits then .error (.badValue s!"{word} too big")
      else .ok (if digits.isEmpty then none else some (asciiNumber digits), rest, args)

/-- Read the name in parentheses of a directive: the text up to the matching parenthesis. -/
def directiveName (depth : Nat) : List Char -> Option (List Char × List Char)
  | [] => none
  | ')' :: rest =>
      if depth = 0 then some ([], rest)
      else (directiveName (depth - 1) rest).map fun (n, r) => (')' :: n, r)
  | '(' :: rest => (directiveName (depth + 1) rest).map fun (n, r) => ('(' :: n, r)
  | c :: rest => (directiveName depth rest).map fun (n, r) => (c :: n, r)

/-- Replace the directives of a text by arguments; the fuel is the length of the text. -/
def runDirectives (total : Nat) : Nat -> List Char -> DirectiveArgs -> Outcome (List String × DirectiveArgs)
  | 0, _, args => .ok ([], args)
  | _ + 1, [], args => .ok ([], args)
  | fuel + 1, '%' :: '%' :: rest, args => do
      let (out, args) <- runDirectives total fuel rest args
      .ok ("%" :: out, args)
  | fuel + 1, '%' :: rest, args => do
      let incomplete : Fault := .badValue "incomplete format"
      let (name, rest) : Option String × List Char <-
        match rest with
        | '(' :: more =>
            match args.named with
            | none => Except.error (Fault.badArgument "format requires a mapping")
            | some _ =>
                match directiveName 0 more with
                | some (n, r) => pure (some (String.ofList n), r)
                | none => Except.error (Fault.badValue "incomplete format key")
        | _ => pure (none, rest)
      let isFlag (c : Char) : Bool := ['-', '+', ' ', '#', '0'].contains c
      let flags := rest.takeWhile isFlag
      let rest := rest.dropWhile isFlag
      let (width, rest, args) <- starOrDigits "width" maxSize "ssize_t" rest args
      let (precision, rest, args) <-
        match rest with
        | '.' :: more => do
            let (p, r, a) <- starOrDigits "precision" maxPlaces "int" more args
            pure (some (p.getD 0), r, a)
        | _ => pure (none, rest, args)
      let rest := match rest with
        | c :: more => if c == 'l' || c == 'h' || c == 'L' then more else rest
        | [] => []
      match rest with
      | [] => .error incomplete
      | type :: rest =>
          let known := ['s', 'r', 'a', 'd', 'i', 'u', 'x', 'X', 'o', 'c', 'e', 'E', 'f', 'F',
            'g', 'G'].contains type || (args.raw && type == 'b')
          let (v, args) <-
            match name with
            | some n => do
                let key := if args.raw then bytes (n.toList.map fun c => UInt8.ofNat c.toNat)
                  else str n
                pure ((<- namedArgument (args.named.getD null) key), args)
            | none => nextArgument args
          if !known then
            let code := String.ofList (Nat.toDigits 16 type.toNat)
            let place := total - rest.length - 1
            let shown := if 32 ≤ type.toNat && type.toNat < 127 then type.toString else "?"
            .error (.badValue
              s!"unsupported format character '{shown}' (0x{code}) at index {place}")
          else
            let piece <- writeDirective ⟨name, flags, width, precision, type⟩ args.raw v
            let (out, args) <- runDirectives total fuel rest args
            .ok (piece :: out, args)
  | fuel + 1, c :: rest, args => do
      let (out, args) <- runDirectives total fuel rest args
      .ok (c.toString :: out, args)

/-- Whether a value has items under keys, and may leave directives without arguments. -/
def isSubscriptable (raw : Bool) (v : Value) : Bool :=
  match v.bare with
  | dict _ => true
  | sealed _ => true
  | list _ => true
  | bytes _ => !raw
  | range .. => true
  | str _ => raw
  | markup _ => raw
  | foreign "types.GenericAlias" => true
  | _ => false

/-- Put a tuple of arguments, a mapping, or one value into the directives of a text. -/
def fillDirectives (raw : Bool) (template : String) (argument : Value) : Outcome String := do
  let keyed := isSubscriptable raw argument
  let args : DirectiveArgs := match argument with
    | tuple items => ⟨items, false, none, raw⟩
    | v => ⟨[v], true, if keyed then some v else none, raw⟩
  let cs := template.toList
  let (pieces, left) <- runDirectives cs.length cs.length cs args
  if !left.positional.isEmpty && !keyed then
    let noun := if raw then "bytes" else "string"
    .error (.badArgument s!"not all arguments converted during {noun} formatting")
  else
    .ok (String.join pieces)

/-- Format a text that holds `%` directives with a tuple of arguments, a mapping, or one value. -/
def formatPercent (template : String) (argument : Value) : Outcome String :=
  fillDirectives false template argument

/-- Apply a binary operator, `%` on a text being formatting. -/
def operate (op : BinaryOp) (v w : Value) : Outcome Value :=
  match op, v with
  | .rem, str s => do .ok (str (<- formatPercent s w))
  | .rem, markup s => do .ok (markup (<- formatPercent s w))
  | .rem, bytes data => do
      let s <- fillDirectives true (byteChars data) w
      .ok (bytes (s.toList.map fun c => UInt8.ofNat c.toNat))
  | op, v => binary op v w

end Value

end Workflow
