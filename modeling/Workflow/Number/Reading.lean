import Workflow.Number.Binary
import Workflow.Text.Class

/-!
# Reading numbers

The texts that numbers are read from: digits of any script, with single underscores
between them.
-/

namespace Workflow

namespace Number

/-- The most digits an integer may have in a text. -/
def maxDigits : Nat := 4300

/-- The value of a digit or letter in a base up to thirty-six. -/
def digitValue? (c : Char) : Option Nat :=
  if 'a' ≤ c && c ≤ 'z' then some (c.toNat - 'a'.toNat + 10)
  else if 'A' ≤ c && c ≤ 'Z' then some (c.toNat - 'A'.toNat + 10)
  else Text.decimalValue? c

/--
The value of a digit string in a base, or `none` when it is empty, holds another
character, or has an underscore that is not between two digits.
-/
def digitsValue? (base : Nat) (cs : List Char) : Option Nat :=
  go false 0 cs
where
  /-- `afterDigit` says whether the last character was a digit. -/
  go (afterDigit : Bool) (acc : Nat) : List Char -> Option Nat
    | [] => if afterDigit then some acc else none
    | '_' :: rest => if afterDigit then go false acc rest else none
    | c :: rest =>
        match digitValue? c with
        | some d => if d < base then go true (acc * base + d) rest else none
        | none => none

/-- A leading sign and what follows it. -/
def splitSign (cs : List Char) : Bool × List Char :=
  match cs with
  | '-' :: rest => (true, rest)
  | '+' :: rest => (false, rest)
  | _ => (false, cs)

/-- What reading an integer gives. -/
inductive IntReading where
  | value (n : Int)
  | tooLong (digits : Nat)
  | invalid
  deriving Repr, DecidableEq

/-- Drop the mark of a base, such as `0x`, with an underscore that may follow it. -/
def dropBaseMark (mark : Char) (cs : List Char) : List Char :=
  match cs with
  | '0' :: m :: rest =>
      if m.toLower == mark then
        match rest with
        | '_' :: more => more
        | _ => rest
      else cs
  | _ => cs

/-- White space around a number: that of every script, but not the information separators. -/
def isNumberBlank (c : Char) : Bool :=
  Text.isBlank c && !('\x1c' ≤ c && c ≤ '\x1f')

/-- Read an integer in a base between two and thirty-six, or in the base its mark names when it is zero. -/
def readInt (base : Nat) (s : String) : IntReading :=
  let (negative, body) := splitSign (Text.trim isNumberBlank s.toList)
  let base' :=
    if base = 0 then
      match body with
      | '0' :: m :: _ =>
          if m.toLower == 'x' then 16 else if m.toLower == 'o' then 8
          else if m.toLower == 'b' then 2 else 10
      | _ => 10
    else base
  let digits :=
    if base' = 16 then dropBaseMark 'x' body
    else if base' = 8 then dropBaseMark 'o' body
    else if base' = 2 then dropBaseMark 'b' body
    else body
  match digitsValue? base' digits with
  | none => .invalid
  | some n =>
      let count := (digits.filter (· != '_')).length
      if base = 0 && base' = 10 && n != 0 && digits.head? == some '0' then .invalid
      else if maxDigits < count && ! [2, 4, 8, 16, 32].contains base' then .tooLong count
      else .value (if negative then -(n : Int) else n)

/-- Digits, an optional fraction and an optional exponent, taken apart. -/
structure DecimalParts where
  whole : List Char
  fraction : List Char
  exponent : Int

/-- Split digits and underscores off the front. -/
def spanDigits (cs : List Char) : List Char × List Char :=
  cs.span fun c => Text.isDecimal c || c == '_'

/-- Whether underscores stand only between digits; the empty text is accepted. -/
def underscoresOk (cs : List Char) : Bool :=
  cs.isEmpty || (digitsValue? 10 cs).isSome

/-- Take a decimal number apart; `none` when the text is not one. -/
def decimalParts? (cs : List Char) : Option DecimalParts :=
  let (whole, rest) := spanDigits cs
  let (fraction, rest) := match rest with
    | '.' :: more => spanDigits more
    | _ => ([], rest)
  if !(underscoresOk whole && underscoresOk fraction) || (whole.isEmpty && fraction.isEmpty) then
    none
  else
    match rest with
    | [] => some ⟨whole, fraction, 0⟩
    | e :: more =>
        if e == 'e' || e == 'E' then
          let (negative, digits) := splitSign more
          (digitsValue? 10 digits).map fun n =>
            ⟨whole, fraction, if negative then -(n : Int) else n⟩
        else none

/-- The double nearest to `mantissa · 10 ^ exponent`, infinite when it is too large. -/
def floatOfDecimal (negative : Bool) (mantissa : Nat) (exponent : Int) : Float :=
  let signed (x : Float) : Float := if negative then -x else x
  let size : Int := (Nat.toDigits 10 mantissa).length
  if mantissa = 0 then signed 0.0
  else if 400 < exponent + size then signed (1.0 / 0.0)
  else if exponent + size < -400 then signed 0.0
  else
    let r :=
      if 0 ≤ exponent then nearestFloat? negative (mantissa * Nat.pow 10 exponent.toNat) 1
      else nearestFloat? negative mantissa (Nat.pow 10 (-exponent).toNat)
    r.getD (signed (1.0 / 0.0))

/-- The double a decimal number stands for. -/
def DecimalParts.toFloat (negative : Bool) (p : DecimalParts) : Float :=
  let digits := (p.whole ++ p.fraction).filter (· != '_')
  let mantissa := (digitsValue? 10 digits).getD 0
  let places := (p.fraction.filter (· != '_')).length
  floatOfDecimal negative mantissa (p.exponent - places)

/-- Read a double, `inf`, `infinity` or `nan`, white space around it ignored. -/
def readFloat? (s : String) : Option Float :=
  let (negative, body) := splitSign (Text.trim isNumberBlank s.toList)
  let word := String.ofList (body.map Char.toLower)
  if word == "inf" || word == "infinity" then
    some (if negative then -(1.0 / 0.0) else 1.0 / 0.0)
  else if word == "nan" then
    some (0.0 / 0.0)
  else
    (decimalParts? body).map (DecimalParts.toFloat negative)

/--
A double rounded to a number of decimal places, a half going to the even digit; the
places may be negative.
-/
def roundPlaces (x : Float) (places : Int) : Option Float :=
  match Binary.ofFloat x with
  | .finite negative mantissa exponent =>
      if 323 < places then some x
      else if places < -308 then some (if negative then -0.0 else 0.0)
      else
        let (num, den) := dyadicRatio mantissa exponent
        if 0 ≤ places then
          nearestFloat? negative (roundDiv (num * Nat.pow 10 places.toNat) den) (Nat.pow 10 places.toNat)
        else
          let unit := Nat.pow 10 (-places).toNat
          nearestFloat? negative (roundDiv num (den * unit) * unit) 1
  | _ => some x

/-- An integer rounded to a multiple of a power of ten, a half going to the even multiple. -/
def roundToPower (n : Int) (power : Nat) : Int :=
  let unit := Nat.pow 10 power
  let q := roundDiv n.natAbs unit * unit
  if n < 0 then -(q : Int) else q

end Number

end Workflow
