import Workflow.Number.Binary

/-!
# Complex numbers

Arithmetic on pairs of doubles.  Quotients are formed by the larger part of the
divisor, and small whole powers by repeated multiplication.
-/

namespace Workflow

namespace Number

/-- A complex number by its real and imaginary parts. -/
structure Complex where
  re : Float
  im : Float
  deriving Repr

/-- The largest natural number whose square is at most `n`. -/
def squareRoot (n : Nat) : Nat :=
  go (bitLength n + 2) (Nat.pow 2 (bitLength n / 2 + 1))
where
  /-- Approach the root from above; each step halves the distance at least. -/
  go : Nat -> Nat -> Nat
    | 0, guess => guess
    | fuel + 1, guess =>
        let next := (guess + n / guess) / 2
        if next < guess then go fuel next else guess

/-- The double nearest to the root of `num / den`. -/
def nearestRoot (num den : Nat) : Float :=
  if num = 0 then 0.0
  else
    -- enough places that the root has more than the bits of a double
    let places := 2 * (bitLength den + 64)
    let scaled := num * Nat.pow 2 places / den
    let root := squareRoot scaled
    -- a remainder makes the root a little larger than what is kept of it
    let sticky := if root * root = scaled && scaled * den = num * Nat.pow 2 places then 0 else 1
    (nearestFloat? false (2 * root + sticky) (2 * Nat.pow 2 (places / 2))).getD (1.0 / 0.0)

namespace Complex

/-- The distance from zero. -/
def abs (a : Complex) : Float :=
  match Binary.ofFloat a.re, Binary.ofFloat a.im with
  | .infinite _, _ => 1.0 / 0.0
  | _, .infinite _ => 1.0 / 0.0
  | .finite _ m e, .finite _ m' e' =>
      let low := min e e'
      let x := m * Nat.pow 2 (e - low).toNat
      let y := m' * Nat.pow 2 (e' - low).toNat
      let (num, den) := dyadicRatio (x * x + y * y) (2 * low)
      nearestRoot num den
  | _, _ => 0.0 / 0.0

/-- The sum. -/
def add (a b : Complex) : Complex := ⟨a.re + b.re, a.im + b.im⟩

/-- The difference. -/
def sub (a b : Complex) : Complex := ⟨a.re - b.re, a.im - b.im⟩

/-- The product. -/
def mul (a b : Complex) : Complex :=
  ⟨a.re * b.re - a.im * b.im, a.re * b.im + a.im * b.re⟩

/-- Whether both parts are zero. -/
def isZero (a : Complex) : Bool := a.re == 0.0 && a.im == 0.0

/-- The quotient; `none` when the divisor is zero. -/
def div? (a b : Complex) : Option Complex :=
  if b.im.abs ≤ b.re.abs then
    if b.re == 0.0 then none
    else
      let ratio := b.im / b.re
      let bottom := b.re + b.im * ratio
      some ⟨(a.re + a.im * ratio) / bottom, (a.im - a.re * ratio) / bottom⟩
  else if b.re.abs ≤ b.im.abs then
    let ratio := b.re / b.im
    let bottom := b.re * ratio + b.im
    some ⟨(a.re * ratio + a.im) / bottom, (a.im * ratio - a.re) / bottom⟩
  else some ⟨0.0 / 0.0, 0.0 / 0.0⟩

/-- A power by repeated squaring; the fuel is the number of binary digits of the exponent. -/
def wholePower (result base : Complex) : Nat -> Nat -> Complex
  | 0, _ => result
  | fuel + 1, n =>
      if n = 0 then result
      else
        let result := if n % 2 = 1 then result.mul base else result
        wholePower result (base.mul base) fuel (n / 2)

/-- A power of any exponent, by its angle and its distance from zero. -/
def polarPower? (a b : Complex) : Option Complex :=
  if b.isZero then some ⟨1.0, 0.0⟩
  else if a.isZero then
    if b.im != 0.0 || b.re < 0.0 then none else some ⟨0.0, 0.0⟩
  else
    let size := a.abs
    let angle := Float.atan2 a.im a.re
    let length := Float.pow size b.re
    let phase := angle * b.re
    let (length, phase) :=
      if b.im != 0.0 then
        (length / Float.exp (angle * b.im), phase + b.im * Float.log size)
      else (length, phase)
    some ⟨length * Float.cos phase, length * Float.sin phase⟩

/-- A power; `none` when zero is raised to an exponent that is not a positive number. -/
def pow? (a b : Complex) : Option Complex :=
  if b.im == 0.0 && isWhole b.re && b.re.abs ≤ 100.0 then
    let n := (truncFloat? b.re).getD 0
    let power := wholePower ⟨1.0, 0.0⟩ a 8 n.natAbs
    if 0 < n then some power else div? ⟨1.0, 0.0⟩ power
  else polarPower? a b

end Complex

end Number

end Workflow
