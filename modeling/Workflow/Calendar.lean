import Workflow.Number.Shortest

/-!
# Days and moments

Dates of the proleptic Gregorian calendar and moments of a day, with the ISO 8601
texts they are written as.
-/

namespace Workflow

/-- A day of the proleptic Gregorian calendar. -/
structure Date where
  year : Nat
  month : Nat
  day : Nat
  deriving Repr, DecidableEq

/-- A zone of time: its offset from UTC in minutes, and a name when it was given one. -/
structure Zone where
  minutes : Int
  name : Option String
  deriving Repr, DecidableEq

/-- A moment of a day, in a zone when one is known. -/
structure DateTime where
  date : Date
  hour : Nat
  minute : Nat
  second : Nat
  microsecond : Nat
  zone : Option Zone
  deriving Repr, DecidableEq

/-- A natural number in decimal, padded with zeros to a width. -/
def padded (width n : Nat) : String :=
  String.ofList (Number.zeroPad width (Number.natDigits n))

/-- Padding is no part of the number that is read back. -/
theorem padded_injective (width : Nat) {m n : Nat} (h : padded width m = padded width n) :
    m = n := by
  have read (k : Nat) : Nat.ofDigitChars 10 (padded width k).toList 0 = k := by
    simp [padded, Number.zeroPad, Number.natDigits, Nat.ofDigitChars_append,
      Nat.ofDigitChars_ten_toDigits]
  rw [← read m, h, read n]

namespace Date

/-- Whether a year has a twenty-ninth of February. -/
def isLeapYear (year : Nat) : Bool :=
  year % 4 == 0 && (year % 100 != 0 || year % 400 == 0)

/-- The number of days of a month. -/
def daysInMonth (year month : Nat) : Nat :=
  if month = 2 then (if isLeapYear year then 29 else 28)
  else if month = 4 || month = 6 || month = 9 || month = 11 then 30
  else 31

/-- Whether year, month and day name a day of the years 1 to 9999. -/
def isValid (d : Date) : Bool :=
  1 ≤ d.year && d.year ≤ 9999 && 1 ≤ d.month && d.month ≤ 12
    && 1 ≤ d.day && d.day ≤ daysInMonth d.year d.month

/-- The number of days since the first of March of the year zero. -/
def dayNumber (d : Date) : Int :=
  let y : Int := if d.month ≤ 2 then (d.year : Int) - 1 else d.year
  let m : Int := if d.month ≤ 2 then d.month + 9 else (d.month : Int) - 3
  365 * y + y / 4 - y / 100 + y / 400 + (153 * m + 2) / 5 + d.day - 1

/-- The day with a given number. -/
def ofDayNumber (n : Int) : Date :=
  let era := n / 146097
  let doe := n % 146097
  let yoe := (doe - doe / 1460 + doe / 36524 - doe / 146096) / 365
  let doy := doe - (365 * yoe + yoe / 4 - yoe / 100)
  let mp := (5 * doy + 2) / 153
  let day := doy - (153 * mp + 2) / 5 + 1
  let month := if mp < 10 then mp + 3 else mp - 9
  let year := yoe + era * 400 + (if month ≤ 2 then 1 else 0)
  ⟨year.toNat, month.toNat, day.toNat⟩

/-- The day of the week, Monday being zero. -/
def weekday (d : Date) : Nat :=
  ((d.dayNumber + 2) % 7).toNat

/-- `YYYY-MM-DD`. -/
def isoText (d : Date) : String :=
  s!"{padded 4 d.year}-{padded 2 d.month}-{padded 2 d.day}"

end Date

namespace Zone

/-- A zone without a name of its own. -/
def ofMinutes (minutes : Int) : Zone := ⟨minutes, none⟩

/-- Universal time. -/
def utc : Zone := ofMinutes 0

end Zone

namespace DateTime

/-- The offset from UTC in minutes. -/
def offset (t : DateTime) : Option Int :=
  t.zone.map (·.minutes)

/-- Microseconds since the first of March of the year zero, by the clock face. -/
def faceMicroseconds (t : DateTime) : Int :=
  t.date.dayNumber * 86400000000
    + ((t.hour * 3600 + t.minute * 60 + t.second) * 1000000 + t.microsecond : Nat)

/-- The moment on the clock face with a given number of microseconds. -/
def ofFaceMicroseconds (n : Int) (zone : Option Zone) : DateTime :=
  let day := n / 86400000000
  let rest := (n % 86400000000).toNat
  let seconds := rest / 1000000
  ⟨Date.ofDayNumber day, seconds / 3600, seconds / 60 % 60, seconds % 60, rest % 1000000, zone⟩

/-- Microseconds in UTC; a moment without an offset is taken as it stands. -/
def utcMicroseconds (t : DateTime) : Int :=
  t.faceMicroseconds - t.offset.getD 0 * 60000000

/-- `+HH:MM`, or nothing when the offset is not known. -/
def offsetText (offset : Option Int) : String :=
  match offset with
  | none => ""
  | some minutes =>
      let mark := if minutes < 0 then "-" else "+"
      s!"{mark}{padded 2 (minutes.natAbs / 60)}:{padded 2 (minutes.natAbs % 60)}"

/-- The time of day, with a fraction only when there is one. -/
def timeText (t : DateTime) : String :=
  let fraction := if t.microsecond = 0 then "" else "." ++ padded 6 t.microsecond
  s!"{padded 2 t.hour}:{padded 2 t.minute}:{padded 2 t.second}{fraction}"

/-- The ISO 8601 text, with a chosen character between day and time. -/
def textWith (t : DateTime) (between : Char) : String :=
  t.date.isoText ++ between.toString ++ t.timeText ++ offsetText t.offset

/-- `YYYY-MM-DDTHH:MM:SS`, then the fraction and the offset when there are any. -/
def isoText (t : DateTime) : String :=
  t.textWith 'T'

/-- The name of a zone: the one it was given, or the one its offset gives it. -/
def zoneName (z : Zone) : String :=
  z.name.getD (if z.minutes = 0 then "UTC" else "UTC" ++ offsetText (some z.minutes))

/-- The text in UTC to the millisecond, truncated, ending in `Z`. -/
def stampText (t : DateTime) : String :=
  let u := ofFaceMicroseconds t.utcMicroseconds none
  s!"{u.date.isoText}T{padded 2 u.hour}:{padded 2 u.minute}:{padded 2 u.second}.{padded 3 (u.microsecond / 1000)}Z"

/-- The number written by exactly `width` digits of ASCII at the front, and what follows. -/
def takeNumber? (width : Nat) (cs : List Char) : Option (Nat × List Char) :=
  let digits := cs.take width
  if digits.length == width && digits.all Char.isDigit then
    some (digits.foldl (fun n c => n * 10 + (c.toNat - 48)) 0, cs.drop width)
  else none

/-- The fraction of a second at the front, in microseconds, cut after six digits. -/
def takeFraction (cs : List Char) : Nat × List Char :=
  match cs with
  | '.' :: rest =>
      let digits := rest.takeWhile Char.isDigit
      let six := (digits ++ List.replicate 6 '0').take 6
      (six.foldl (fun n c => n * 10 + (c.toNat - 48)) 0, rest.dropWhile Char.isDigit)
  | _ => (0, cs)

/-- The offset at the end of a moment: nothing, `Z`, or hours and minutes with a sign. -/
def readOffset? (cs : List Char) : Option (Option Int) :=
  match cs with
  | [] => some none
  | ['Z'] => some (some 0)
  | sign :: rest => do
      let (hours, rest) <- takeNumber? 2 rest
      let (minutes, rest) <- match rest with
        | ':' :: more => takeNumber? 2 more
        | _ => none
      let n : Int := (hours * 60 + minutes : Nat)
      if rest.isEmpty && sign == '+' then some (some n)
      else if rest.isEmpty && sign == '-' then some (some (-n))
      else none

/-- Read a moment from its ISO 8601 text. -/
def ofIsoText? (s : String) : Option DateTime := do
  let (year, rest) <- takeNumber? 4 s.toList
  let (month, rest) <- takeNumber? 2 (rest.drop 1)
  let (day, rest) <- takeNumber? 2 (rest.drop 1)
  let (hour, rest) <- takeNumber? 2 (rest.drop 1)
  let (minute, rest) <- takeNumber? 2 (rest.drop 1)
  let (second, rest) <- takeNumber? 2 (rest.drop 1)
  let (microsecond, rest) := takeFraction rest
  let offset <- readOffset? rest
  some ⟨⟨year, month, day⟩, hour, minute, second, microsecond, offset.map Zone.ofMinutes⟩

end DateTime

end Workflow
