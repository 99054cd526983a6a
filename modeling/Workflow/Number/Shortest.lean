import Workflow.Number.Binary

/-!
# Decimal digits of a double

Two ways to choose the digits: the fewest that read back as the same double, and
a fixed number of places or significant digits.  `Notation` says how chosen digits
are laid out.
-/

namespace Workflow

namespace Number

/-- Decimal digits `d₁d₂…` standing for `0.d₁d₂… · 10 ^ point`. -/
structure Digits where
  digits : List Char
  point : Int
  deriving Repr, DecidableEq

/-- The decimal digits of a natural number; `0` has the single digit `0`. -/
def natDigits (n : Nat) : List Char :=
  Nat.toDigits 10 n

/-- Drop the zeros at the end of a digit string. -/
def dropTrailingZeros (ds : List Char) : List Char :=
  (ds.reverse.dropWhile (· == '0')).reverse

/--
The `point` with `10 ^ (point - 1) ≤ num / den < 10 ^ point`, for a positive ratio.
-/
def decimalPoint (num den : Nat) : Int :=
  if den ≤ num then
    (natDigits (num / den)).length
  else
    let rec search : Nat -> Nat -> Int -> Int
      | 0, _, p => p
      | fuel + 1, scaled, p =>
          if den ≤ scaled then p + 1 else search fuel (scaled * 10) (p - 1)
    search 400 num 0

/-- `num / den · 10 ^ (-e)` as a ratio of natural numbers. -/
def scaleDown (num den : Nat) (e : Int) : Nat × Nat :=
  if 0 ≤ e then (num, den * Nat.pow 10 e.toNat) else (num * Nat.pow 10 (-e).toNat, den)

/--
The fewest digits whose decimal lies among the reals that round to
`mantissa · 2 ^ exponent`; of two candidates with that many digits the nearer one,
and of two equally near ones the even one.
-/
def shortestDigits (mantissa : Nat) (exponent : Int) : Digits :=
  if mantissa = 0 then
    ⟨['0'], 1⟩
  else
    -- all quantities are scaled by four so that both ends of the interval are whole
    let narrow := mantissa == Nat.pow 2 52 && decide (-1074 < exponent)
    let (num, den) := dyadicRatio (4 * mantissa) (exponent - 2)
    let (low, _) := dyadicRatio (4 * mantissa - (if narrow then 1 else 2)) (exponent - 2)
    let (high, _) := dyadicRatio (4 * mantissa + 2) (exponent - 2)
    let closed := mantissa % 2 == 0
    let point := decimalPoint num den
    -- whether `c · 10 ^ e` rounds to the number
    let reads (c : Nat) (e : Int) : Bool :=
      let (l, d) := scaleDown low den e
      let (h, _) := scaleDown high den e
      if closed then decide (l ≤ c * d) && decide (c * d ≤ h)
      else decide (l < c * d) && decide (c * d < h)
    let rec search : Nat -> Nat -> Digits
      | 0, count => pick count
      | fuel + 1, count =>
          let e := point - count
          let (n, d) := scaleDown num den e
          let c := n / d
          if reads c e || reads (c + 1) e then pick count else search fuel (count + 1)
    search 16 1
where
  /-- The nearer of the two neighbours on the grid with `count` digits. -/
  pick (count : Nat) : Digits :=
    let narrow := mantissa == Nat.pow 2 52 && decide (-1074 < exponent)
    let (num, den) := dyadicRatio (4 * mantissa) (exponent - 2)
    let (low, _) := dyadicRatio (4 * mantissa - (if narrow then 1 else 2)) (exponent - 2)
    let closed := mantissa % 2 == 0
    let point := decimalPoint num den
    let e := point - count
    let (n, d) := scaleDown num den e
    let (l, _) := scaleDown low den e
    let c := n / d
    let lowReads := if closed then decide (l ≤ c * d) else decide (l < c * d)
    let r := n % d
    let best :=
      if !lowReads then c + 1
      else if 2 * r < d then c
      else if d < 2 * r then c + 1
      else if c % 2 = 0 then c
      else c + 1
    let ds := natDigits best
    ⟨dropTrailingZeros ds, point + ((ds.length : Int) - count)⟩

/-- Exactly `count ≥ 1` significant digits, a half going to the even digit. -/
def significantDigits (mantissa : Nat) (exponent : Int) (count : Nat) : Digits :=
  if mantissa = 0 then
    ⟨List.replicate count '0', 1⟩
  else
    let (num, den) := dyadicRatio mantissa exponent
    let point := decimalPoint num den
    let (n, d) := scaleDown num den (point - count)
    let ds := natDigits (roundDiv n d)
    ⟨ds.take count, point + ((ds.length : Int) - count)⟩

/-- The number rounded to `places` decimal places, times `10 ^ places`. -/
def fixedPlaces (mantissa : Nat) (exponent : Int) (places : Int) : Nat :=
  let (num, den) := dyadicRatio mantissa exponent
  let (n, d) := scaleDown num den (-places)
  roundDiv n d

/-- Layout of a decimal number whose digits are already chosen. -/
structure Layout where
  /-- Least power of ten of the leading digit written positionally. -/
  lowest : Int
  /-- First power of ten of the leading digit written with an exponent. -/
  highest : Int
  /-- Whether a whole number written positionally keeps `.0`. -/
  keepPoint : Bool
  /-- Mark before the exponent. -/
  mark : Char
  /-- Least number of digits of the exponent. -/
  exponentDigits : Nat

/-- Pad a digit string on the left with zeros up to a width. -/
def zeroPad (width : Nat) (ds : List Char) : List Char :=
  List.replicate (width - ds.length) '0' ++ ds

/-- `e+07`: mark, sign and at least the given number of digits. -/
def exponentText (mark : Char) (width : Nat) (e : Int) : List Char :=
  mark :: (if e < 0 then '-' else '+') :: zeroPad width (natDigits e.natAbs)

/-- Digits with the decimal point at its place, with zeros supplied on either side. -/
def positional (d : Digits) : List Char × List Char :=
  if d.point ≤ 0 then
    (['0'], List.replicate (-d.point).toNat '0' ++ d.digits)
  else
    let p := d.point.toNat
    (d.digits.take p ++ List.replicate (p - d.digits.length) '0', d.digits.drop p)

/-- Write digits positionally or with an exponent, as the layout decides. -/
def Layout.write (l : Layout) (d : Digits) : List Char :=
  let power := d.point - 1
  if l.lowest ≤ power && power < l.highest then
    let (whole, fraction) := positional d
    if fraction.isEmpty then
      whole ++ (if l.keepPoint then ['.', '0'] else [])
    else
      whole ++ '.' :: fraction
  else
    let lead := d.digits.take 1
    let rest := d.digits.drop 1
    lead ++ (if rest.isEmpty then [] else '.' :: rest)
      ++ exponentText l.mark l.exponentDigits power

/--
Default text of a number: positional from `0.0001` up to below `10 ^ 16`, keeping
`.0`, and otherwise with a signed exponent of at least two digits.
-/
def defaultLayout : Layout :=
  ⟨-4, 16, true, 'e', 2⟩

/-- The default text of a double; `inf` and `nan` are written as words. -/
def floatText (x : Float) : String :=
  match Binary.ofFloat x with
  | .nan => "nan"
  | .infinite negative => if negative then "-inf" else "inf"
  | .finite negative m e =>
      let body := String.ofList (defaultLayout.write (shortestDigits m e))
      if negative then "-" ++ body else body

end Number

end Workflow
