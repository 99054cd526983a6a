/-!
# Binary floating-point numbers as exact ratios

A finite double is `± mantissa · 2 ^ exponent`.  Every question about its decimal
text or its nearest integer is answered on that exact value, in natural-number
arithmetic, and never through another floating-point operation.
-/

namespace Workflow

namespace Number

/-- What a double denotes: a signed dyadic number, an infinity, or no number. -/
inductive Binary where
  | finite (negative : Bool) (mantissa : Nat) (exponent : Int)
  | infinite (negative : Bool)
  | nan
  deriving Repr, DecidableEq

/-- Read the sign, mantissa and exponent of a double out of its bits. -/
def Binary.ofFloat (x : Float) : Binary :=
  let bits : Nat := x.toBits.toNat
  let negative := decide (bits / Nat.pow 2 63 = 1)
  let exponent : Nat := bits / Nat.pow 2 52 % Nat.pow 2 11
  let fraction : Nat := bits % Nat.pow 2 52
  if exponent = 2047 then
    if fraction = 0 then .infinite negative else .nan
  else if exponent = 0 then
    .finite negative fraction (-1074)
  else
    .finite negative (fraction + Nat.pow 2 52) ((exponent : Int) - 1075)

/-- Numerator and denominator of `mantissa · 2 ^ exponent`. -/
def dyadicRatio (mantissa : Nat) (exponent : Int) : Nat × Nat :=
  if 0 ≤ exponent then
    (mantissa * Nat.pow 2 exponent.toNat, 1)
  else
    (mantissa, Nat.pow 2 (-exponent).toNat)

/-- The quotient rounded to the nearest natural number, a half going to the even one. -/
def roundDiv (num den : Nat) : Nat :=
  let q := num / den
  let r := num % den
  if 2 * r < den then q
  else if den < 2 * r then q + 1
  else if q % 2 = 0 then q
  else q + 1

/-- The number of binary digits of a natural number; `0` has none. -/
def bitLength (n : Nat) : Nat :=
  if n = 0 then 0 else n.log2 + 1

/--
The double nearest to `num / den`, a half going to the even mantissa, or `none`
when the quotient is beyond the largest double.
-/
def nearestFloat? (negative : Bool) (num den : Nat) : Option Float :=
  let signed (x : Float) : Float := if negative then -x else x
  if num = 0 then
    some (signed 0.0)
  else
    let guess : Int := (bitLength num : Int) - bitLength den - 53
    let scaled (e : Int) : Nat × Nat :=
      if 0 ≤ e then (num, den * Nat.pow 2 e.toNat) else (num * Nat.pow 2 (-e).toNat, den)
    let fits (e : Int) : Bool := decide ((scaled e).1 / (scaled e).2 < Nat.pow 2 53)
    let exponent : Int := max (if fits guess then guess else guess + 1) (-1074)
    let mantissa := roundDiv (scaled exponent).1 (scaled exponent).2
    let (mantissa, exponent) :=
      if mantissa = Nat.pow 2 53 then (Nat.pow 2 52, exponent + 1) else (mantissa, exponent)
    if 971 < exponent then
      none
    else
      let bits :=
        if mantissa < Nat.pow 2 52 then mantissa
        else (exponent + 1075).toNat * Nat.pow 2 52 + (mantissa - Nat.pow 2 52)
      some (signed (Float.ofBits (UInt64.ofNat bits)))

/-- The double nearest to an integer, or `none` when it is out of range. -/
def floatOfInt? (n : Int) : Option Float :=
  nearestFloat? (decide (n < 0)) n.natAbs 1

/-- Half a place above the largest double: what reaches it is rounded to infinity. -/
def floatLimit : Nat := (Nat.pow 2 54 - 1) * Nat.pow 2 970

/-- Whether a power of `mantissa · 2 ^ exponent` is rounded to infinity. -/
def powerOverflows (mantissa : Nat) (exponent : Int) (n : Nat) : Bool :=
  let (num, den) := dyadicRatio (Nat.pow mantissa n) (exponent * n)
  decide (floatLimit * den ≤ num)

/-- The integer part of a finite double; `none` for infinities and `nan`. -/
def truncFloat? (x : Float) : Option Int :=
  match Binary.ofFloat x with
  | .finite negative mantissa exponent =>
      let (num, den) := dyadicRatio mantissa exponent
      let n : Int := (num / den : Nat)
      some (if negative then -n else n)
  | _ => none

/-- Whether a double is a whole number. -/
def isWhole (x : Float) : Bool :=
  match Binary.ofFloat x with
  | .finite _ mantissa exponent =>
      let (num, den) := dyadicRatio mantissa exponent
      num % den == 0
  | _ => false

/-- Whether the sign bit of a double is set, as it is for `-0.0`. -/
def signBit (x : Float) : Bool :=
  decide (x.toBits.toNat / Nat.pow 2 63 = 1)

/-- The nearest integer, a half going to the even one. -/
def roundToInt? (x : Float) : Option Int :=
  match Binary.ofFloat x with
  | .finite negative mantissa exponent =>
      let (num, den) := dyadicRatio mantissa exponent
      let n : Int := (roundDiv num den : Nat)
      some (if negative then -n else n)
  | _ => none

/-- Exact order of an integer and a double; `none` when the double is `nan`. -/
def compareIntFloat (n : Int) (x : Float) : Option Ordering :=
  match Binary.ofFloat x with
  | .nan => none
  | .infinite negative => some (if negative then .gt else .lt)
  | .finite negative mantissa exponent =>
      let (num, den) := dyadicRatio mantissa exponent
      let value : Int := if negative then -(num : Int) else num
      some (compare (n * den) value)

/-- Order of two doubles; `none` when either is `nan`. -/
def compareFloat (x y : Float) : Option Ordering :=
  if x < y then some .lt
  else if y < x then some .gt
  else if x == y then some .eq
  else none

/--
The remainder of `x / y` with the sign of `x`, exactly: both numbers are brought
to a common power of two and divided as natural numbers.
-/
def floatRem (x y : Float) : Float :=
  match Binary.ofFloat x, Binary.ofFloat y with
  | .finite negative m e, .finite _ m' e' =>
      if m' = 0 then
        0.0 / 0.0
      else
        let low := min e e'
        let r := (m * Nat.pow 2 (e - low).toNat) % (m' * Nat.pow 2 (e' - low).toNat)
        let (num, den) := dyadicRatio r low
        (nearestFloat? negative num den).getD (0.0 / 0.0)
  | .finite .., .infinite _ => x
  | _, _ => 0.0 / 0.0

end Number

end Workflow
