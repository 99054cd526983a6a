import Workflow.Value.SetOrder
import Workflow.Value.Text
import Workflow.Number.Complex

/-!
# Arithmetic of values

The unary and binary operators.  Integers are unbounded; division of integers gives
the double nearest to the exact quotient; floor division and remainder take the sign
of the divisor.
-/

namespace Workflow

/-- The binary operators that compute a new value. -/
inductive BinaryOp where
  | add
  | sub
  | mul
  | div
  | floorDiv
  | rem
  | pow
  | shiftLeft
  | shiftRight
  | bitAnd
  | bitOr
  | bitXor
  | matMul
  deriving Repr, DecidableEq

/-- The sign an operator is named by in messages. -/
def BinaryOp.sign : BinaryOp -> String
  | .add => "+"
  | .sub => "-"
  | .mul => "*"
  | .div => "/"
  | .floorDiv => "//"
  | .rem => "%"
  | .pow => "** or pow()"
  | .shiftLeft => "<<"
  | .shiftRight => ">>"
  | .bitAnd => "&"
  | .bitOr => "|"
  | .bitXor => "^"
  | .matMul => "@"

/-- The unary operators. -/
inductive UnaryOp where
  | not
  | neg
  | pos
  | invert
  deriving Repr, DecidableEq

namespace Value

/-- A real number is an integer or a double. -/
inductive Numeric where
  | int (n : Int)
  | float (x : Float)
  deriving Repr

/-- The real number a value stands for; truth values count as integers. -/
def asNumber? (v : Value) : Option Numeric :=
  match v.bare with
  | .float x => some (.float x)
  | v => v.asInt?.map .int

/-- The double nearest to an integer. -/
def floatOfInt (n : Int) : Outcome Float :=
  match Number.floatOfInt? n with
  | some x => .ok x
  | none => .error (.overflow "int too large to convert to float")

/-- A number as a double. -/
def Numeric.toFloat : Numeric -> Outcome Float
  | .float x => .ok x
  | .int n => floatOfInt n

/-- The largest number of items a collection may be asked for. -/
def maxSize : Int := Int.pow 2 63 - 1

/-- The largest number of items a collection is made with. -/
def maxMade : Int := Int.pow 2 36

/-- The fault of a collection that does not fit into the memory. -/
def outOfMemory : Fault :=
  .other "MemoryError" ""

/-- Refuse a number that is no size. -/
def checkSize (n : Int) (fault : Fault) : Outcome Unit :=
  if maxSize < n || n < -maxSize - 1 then .error fault else .ok ()

/-- The fault of a position or a number of repetitions that is no size. -/
def unfitIndex : Fault :=
  .overflow "cannot fit 'int' into an index-sized integer"

/-- The value of a complex number. -/
def ofComplex (c : Number.Complex) : Value :=
  complex c.re c.im

/-- Zero with a given sign. -/
def signedZero (negative : Bool) : Float :=
  if negative then -0.0 else 0.0

/-- Floor quotient and remainder of doubles; the remainder takes the sign of the divisor. -/
def floatDivMod (x y : Float) : Float × Float :=
  let rem := Number.floatRem x y
  let quotient := (x - rem) / y
  let (rem, quotient) :=
    if rem == 0.0 then (signedZero (Number.signBit y), quotient)
    else if (y < 0.0) != (rem < 0.0) then (rem + y, quotient - 1.0)
    else (rem, quotient)
  let quotient :=
    if quotient == 0.0 then signedZero (Number.signBit (x / y))
    else
      let low := quotient.floor
      if 0.5 < quotient - low then low + 1.0 else low
  (quotient, rem)

/-- A double raised to a double; a negative base with a fractional exponent has no real power. -/
def floatPow (x y : Float) : Outcome Value :=
  if x == 0.0 && y < 0.0 then
    .error (.zeroDivision "0.0 cannot be raised to a negative power")
  else if x < 0.0 && x.isFinite && y.isFinite && !Number.isWhole y then
    match Number.Complex.pow? ⟨x, 0.0⟩ ⟨y, 0.0⟩ with
    | some c => .ok (ofComplex c)
    | none => .error (.zeroDivision "0.0 to a negative or complex power")
  else
    let z := Float.pow x y
    if z.isInf && x.isFinite && y.isFinite then
      .error (.overflow "(34, 'Numerical result out of range')")
    else
      .ok (.float z)

/-- The quotient of integers as the nearest double. -/
def divideInts (m n : Int) : Outcome Value :=
  if n = 0 then
    .error (.zeroDivision "division by zero")
  else
    match Number.nearestFloat? (decide (m < 0) != decide (n < 0)) m.natAbs n.natAbs with
    | some x => .ok (.float x)
    | none => .error (.overflow "integer division result too large for a float")

/-- The bits of an integer in two's complement, combined by a Boolean operation. -/
def bitwise (op : Bool -> Bool -> Bool) (m n : Int) : Int :=
  let width := max (Number.bitLength m.natAbs) (Number.bitLength n.natAbs) + 1
  let size : Int := Nat.pow 2 width
  let a := (m % size).toNat
  let b := (n % size).toNat
  let bits : Nat := (List.range width).foldl
    (fun (acc i : Nat) => if op (a.testBit i) (b.testBit i) then acc + Nat.pow 2 i else acc) 0
  if bits.testBit (width - 1) then (bits : Int) - size else bits

/-- Operators on two integers. -/
def intOp (op : BinaryOp) (m n : Int) : Outcome Value :=
  match op with
  | .add => .ok (int (m + n))
  | .sub => .ok (int (m - n))
  | .mul => .ok (int (m * n))
  | .div => divideInts m n
  | .floorDiv =>
      if n = 0 then .error (.zeroDivision "integer division or modulo by zero")
      else .ok (int (Int.fdiv m n))
  | .rem =>
      if n = 0 then .error (.zeroDivision "integer modulo by zero")
      else .ok (int (Int.fmod m n))
  | .pow =>
      if 0 ≤ n then .ok (int (Int.pow m n.toNat))
      else do floatPow (<- floatOfInt m) (<- floatOfInt n)
  | .shiftLeft =>
      if n < 0 then .error (.badValue "negative shift count")
      else .ok (int (m * Int.pow 2 n.toNat))
  | .shiftRight =>
      if n < 0 then .error (.badValue "negative shift count")
      else .ok (int (Int.fdiv m (Int.pow 2 n.toNat)))
  | .bitAnd => .ok (int (bitwise (· && ·) m n))
  | .bitOr => .ok (int (bitwise (· || ·) m n))
  | .bitXor => .ok (int (bitwise (· != ·) m n))
  | .matMul => .error (.unsupported op.sign "int" "int")

/-- Operators on two doubles; `none` when the operator is for integers only. -/
def floatOp? (op : BinaryOp) (x y : Float) : Option (Outcome Value) :=
  match op with
  | .add => some (.ok (.float (x + y)))
  | .sub => some (.ok (.float (x - y)))
  | .mul => some (.ok (.float (x * y)))
  | .div => some <|
      if y == 0.0 then .error (.zeroDivision "float division by zero")
      else .ok (.float (x / y))
  | .floorDiv => some <|
      if y == 0.0 then .error (.zeroDivision "float floor division by zero")
      else .ok (.float (floatDivMod x y).1)
  | .rem => some <|
      if y == 0.0 then .error (.zeroDivision "float modulo")
      else .ok (.float (floatDivMod x y).2)
  | .pow => some (floatPow x y)
  | _ => none

/-- Items repeated a number of times; none when it is not positive. -/
def repeatItems (items : List α) (n : Int) : List α :=
  (List.replicate n.toNat items).flatten

/-- Items repeated a number of times, as long as they fit into the memory. -/
def repeatWithin (items : List α) (n : Int) : Outcome (List α) := do
  checkSize n unfitIndex
  if items.isEmpty then .ok []
  else if maxMade < n * items.length then .error outOfMemory
  else .ok (repeatItems items n)

/-- Repetition of a sequence by an integer; `none` when the value is not a sequence. -/
def repeat? (v : Value) (n : Int) : Option (Outcome Value) :=
  match v.bare with
  | str s => some do .ok (str (String.ofList (<- repeatWithin s.toList n)))
  | markup s => some do .ok (markup (String.ofList (<- repeatWithin s.toList n)))
  | list items => some do .ok (list (<- repeatWithin items n))
  | tuple items => some do .ok (tuple (<- repeatWithin items n))
  | bytes data => some do .ok (bytes (<- repeatWithin data n))
  | _ => none

/-- Whether a value is a sequence that can be repeated. -/
def isRepeatable (v : Value) : Bool :=
  match v.bare with
  | str _ => true
  | markup _ => true
  | list _ => true
  | tuple _ => true
  | bytes _ => true
  | _ => false

/-- A text with the characters of markup escaped. -/
def escapeMarkup (s : String) : String :=
  String.join (s.toList.map fun c =>
    if c == '&' then "&amp;"
    else if c == '<' then "&lt;"
    else if c == '>' then "&gt;"
    else if c == '"' then "&#34;"
    else if c == '\'' then "&#39;"
    else c.toString)

/-- The text of a value made safe for markup. -/
def markupText : Value -> String
  | markup s => s
  | v => escapeMarkup v.text

/-! ## Moments and spans of time -/

/-- The largest span of time, in days. -/
def maxSpanDays : Int := 999999999

/-- A span of time that is not too long. -/
def makeSpan (n : Int) : Outcome Value :=
  let days := n / 86400000000
  if -maxSpanDays ≤ days && days ≤ maxSpanDays then .ok (span n)
  else .error (.overflow s!"days={days}; must have magnitude <= 999999999")

/-- A moment a span of time later, by the clock face. -/
def laterMoment (t : DateTime) (n : Int) : Outcome Value :=
  let face := t.faceMicroseconds + n
  let low := (Date.mk 1 1 1).dayNumber * 86400000000
  let high := ((Date.mk 9999 12 31).dayNumber + 1) * 86400000000
  if low ≤ face && face < high then .ok (datetime (.ofFaceMicroseconds face t.zone))
  else .error (.overflow "date value out of range")

/-- A day so many days later. -/
def laterDay (d : Date) (n : Int) : Outcome Value :=
  let day := d.dayNumber + n
  if (Date.mk 1 1 1).dayNumber ≤ day && day ≤ (Date.mk 9999 12 31).dayNumber then
    .ok (date (.ofDayNumber day))
  else .error (.overflow "date value out of range")

/-- The whole days of a span of time. -/
def spanDays (n : Int) : Int := n / 86400000000

/-- A quotient of integers rounded to the nearest integer, a half going to the even one. -/
def roundQuotient (m n : Int) : Int :=
  let q : Int := Number.roundDiv m.natAbs n.natAbs
  if (m < 0) != (n < 0) then -q else q

/-- A span of time multiplied by a double, or divided by one. -/
def scaleSpan (n : Int) (x : Float) (divide : Bool) : Outcome Value := do
  match Number.Binary.ofFloat x with
  | .nan => .error (.badValue "cannot convert NaN to integer ratio")
  | .infinite _ => .error (.overflow "cannot convert Infinity to integer ratio")
  | .finite negative m e =>
      let (num, den) := Number.dyadicRatio m e
      let num : Int := if negative then -(num : Int) else num
      if divide then
        if num = 0 then .error (.zeroDivision "division by zero")
        else makeSpan (roundQuotient (n * den) num)
      else makeSpan (roundQuotient (n * num) den)

/-- Operators on moments and spans of time; `none` when one operand is neither. -/
def timeOp? (op : BinaryOp) (v w : Value) : Option (Outcome Value) :=
  match op, v, w with
  | .sub, date d, date e => some (makeSpan ((d.dayNumber - e.dayNumber) * 86400000000))
  | .sub, datetime t, datetime u =>
      some <|
        if t.offset.isSome == u.offset.isSome then
          makeSpan (if t.offset == u.offset then t.faceMicroseconds - u.faceMicroseconds
            else t.utcMicroseconds - u.utcMicroseconds)
        else .error (.badArgument "can't subtract offset-naive and offset-aware datetimes")
  | .add, datetime t, span n => some (laterMoment t n)
  | .add, span n, datetime t => some (laterMoment t n)
  | .sub, datetime t, span n => some (laterMoment t (-n))
  | .add, date d, span n => some (laterDay d (spanDays n))
  | .add, span n, date d => some (laterDay d (spanDays n))
  | .sub, date d, span n => some (laterDay d (-spanDays n))
  | .add, span m, span n => some (makeSpan (m + n))
  | .sub, span m, span n => some (makeSpan (m - n))
  | .div, span m, span n => some (divideInts m n)
  | .floorDiv, span m, span n =>
      some (if n = 0 then .error (.zeroDivision "integer division or modulo by zero")
        else .ok (int (Int.fdiv m n)))
  | .rem, span m, span n =>
      some (if n = 0 then .error (.zeroDivision "integer modulo by zero")
        else .ok (span (Int.fmod m n)))
  | .mul, span n, w => w.asNumber?.map fun k =>
      match k with
      | .int k => makeSpan (n * k)
      | .float x => scaleSpan n x false
  | .mul, v, span n => v.asNumber?.map fun k =>
      match k with
      | .int k => makeSpan (n * k)
      | .float x => scaleSpan n x false
  | .floorDiv, span n, w => w.asInt?.map fun k =>
      if k = 0 then .error (.zeroDivision "integer division or modulo by zero")
      else makeSpan (Int.fdiv n k)
  | .div, span n, w => w.asNumber?.map fun k =>
      match k with
      | .int k =>
          if k = 0 then .error (.zeroDivision "division by zero") else makeSpan (roundQuotient n k)
      | .float x => scaleSpan n x true
  | _, _, _ => none

/-! ## Complex numbers -/

/-- A number as a complex one. -/
def asComplex? (v : Value) : Option (Outcome Number.Complex) :=
  match v with
  | complex re im => some (.ok ⟨re, im⟩)
  | v => v.asNumber?.map fun k => do .ok ⟨<- k.toFloat, 0.0⟩

/-- Operators on two complex numbers; `none` when the operator is for real ones only. -/
def complexOp? (op : BinaryOp) (a b : Number.Complex) : Option (Outcome Value) :=
  match op with
  | .add => some (.ok (ofComplex (a.add b)))
  | .sub => some (.ok (ofComplex (a.sub b)))
  | .mul => some (.ok (ofComplex (a.mul b)))
  | .div => some <|
      match a.div? b with
      | some c => .ok (ofComplex c)
      | none => .error (.zeroDivision "complex division by zero")
  | .pow => some <|
      match a.pow? b with
      | some c =>
          if c.re.isInf || c.im.isInf then .error (.overflow "complex exponentiation")
          else .ok (ofComplex c)
      | none => .error (.zeroDivision "0.0 to a negative or complex power")
  | _ => none

/-! ## Sets -/

/-- Whether a value is a view that is like a set. -/
def isSetView : Value -> Bool
  | view .keys _ => true
  | view .items _ => true
  | _ => false

/-- The items of one of the collections that operators on sets take. -/
def collectionItems (v : Value) : Outcome (List Value) :=
  match v.bare with
  | set xs => .ok xs
  | list xs => .ok xs
  | tuple xs => .ok xs
  | dict entries => .ok (entries.map (·.1))
  | sealed entries => .ok (entries.map (·.1))
  | view kind owner => .ok (viewItems kind owner)
  | str s => .ok (s.toList.map fun c => str c.toString)
  | markup s => .ok (s.toList.map fun c => str c.toString)
  | bytes data => .ok (data.map fun b => int b.toNat)
  | range start stop step => .ok (rangeItems start stop step)
  | v => .error (.notIterable v.kind)

/-- Operators on two sets; `none` when sets have no such operator. -/
def setOp? (op : BinaryOp) (xs ys : List Value) : Option Value :=
  match op with
  | .sub => some (set (inSetOrder (xs.filter fun x => !isAmong x ys)))
  | .bitAnd => some (set (inSetOrder (commonItems xs ys)))
  | .bitOr => some (set (inSetOrder (ys.foldl addItem xs)))
  | .bitXor =>
      some (set (inSetOrder
        ((ys.filter fun y => !isAmong y xs) ++ xs.filter fun x => !isAmong x ys)))
  | _ => none

/-- Operators on sets and on views that are like sets; a view takes any collection beside it. -/
def membersOp? (op : BinaryOp) (v w : Value) : Option (Outcome Value) :=
  match v, w with
  | set xs, set ys => (setOp? op xs ys).map .ok
  | v, w =>
      if isSetView v || isSetView w then
        if (setOp? op [] []).isSome then
          some do
            let xs <- (<- collectionItems v).mapM hashable
            let ys <- (<- collectionItems w).mapM hashable
            .ok ((setOp? op (xs.foldl addItem []) (ys.foldl addItem [])).getD null)
        else none
      else none

/-- Operators that are defined on values other than numbers. -/
def structuralOp (op : BinaryOp) (v w : Value) : Outcome Value :=
  let mismatch : Outcome Value := .error (.unsupported op.sign v.kind w.kind)
  match op with
  | .add =>
      match v, w with
      | str s, str t => .ok (str (s ++ t))
      | markup s, w =>
          match w with
          | str t => .ok (markup (s ++ escapeMarkup t))
          | markup t => .ok (markup (s ++ t))
          | _ => mismatch
      | str s, markup t => .ok (markup (escapeMarkup s ++ t))
      | str _, _ => .error (.badArgument s!"can only concatenate str (not \"{w.kind}\") to str")
      | list xs, list ys => .ok (list (xs ++ ys))
      | list _, _ => .error (.badArgument s!"can only concatenate list (not \"{w.kind}\") to list")
      | tuple xs, tuple ys => .ok (tuple (xs ++ ys))
      | tuple _, _ =>
          .error (.badArgument s!"can only concatenate tuple (not \"{w.kind}\") to tuple")
      | bytes a, bytes b => .ok (bytes (a ++ b))
      | bytes _, _ => .error (.badArgument s!"can't concat {w.kind} to bytes")
      | _, _ => mismatch
  | .mul =>
      match v.asInt?, w.asInt? with
      | _, some n => (repeat? v n).getD mismatch
      | some n, _ => (repeat? w n).getD mismatch
      | none, none =>
          if v.isRepeatable then
            .error (.badArgument s!"can't multiply sequence by non-int of type '{w.kind}'")
          else if w.isRepeatable then
            .error (.badArgument s!"can't multiply sequence by non-int of type '{v.kind}'")
          else
            mismatch
  | op =>
      match membersOp? op v w with
      | some r => r
      | none =>
          match op, v.entries?, w.entries? with
          | .bitOr, some ps, some qs =>
              .ok (dict (qs.foldl (fun acc (k, x) => insert acc k x) ps))
          | _, _, _ => mismatch

/-- Operators on two real numbers. -/
def numberOp (op : BinaryOp) (mismatch : Fault) : Numeric -> Numeric -> Outcome Value
  | .int m, .int n =>
      match op with
      | .matMul => .error mismatch
      | op => intOp op m n
  | a, b =>
      match floatOp? op 0.0 1.0 with
      | none => .error mismatch
      | some _ => do
          let x <- a.toFloat
          let y <- b.toFloat
          (floatOp? op x y).getD (.error mismatch)

/-- Apply a binary operator; formatting with `%` is not part of it. -/
def binary (op : BinaryOp) (v w : Value) : Outcome Value :=
  let mismatch : Fault := .unsupported op.sign v.kind w.kind
  match v.bare, w.bare, op with
  | bool a, bool b, .bitAnd => .ok (bool (a && b))
  | bool a, bool b, .bitOr => .ok (bool (a || b))
  | bool a, bool b, .bitXor => .ok (bool (a != b))
  | v, w, op =>
      match v.asNumber?, w.asNumber? with
      | some a, some b => numberOp op mismatch a b
      | _, _ =>
          match v.asComplex?, w.asComplex? with
          | some a, some b =>
              match complexOp? op ⟨0.0, 0.0⟩ ⟨1.0, 0.0⟩ with
              | none => .error mismatch
              | some _ => do (complexOp? op (<- a) (<- b)).getD (.error mismatch)
          | _, _ =>
              match timeOp? op v w with
              | some r => r
              | none => structuralOp op v w

/-- Apply a unary operator. -/
def unary (op : UnaryOp) (v : Value) : Outcome Value :=
  match op, v.bare with
  | .not, v => .ok (bool (!v.truthy))
  | .neg, .float x => .ok (.float (-x))
  | .pos, .float _ => .ok v
  | .neg, complex re im => .ok (complex (-re) (-im))
  | .pos, complex re im => .ok (complex re im)
  | .neg, span n => makeSpan (-n)
  | .pos, span n => .ok (span n)
  | .neg, v =>
      match v.asInt? with
      | some n => .ok (int (-n))
      | none => .error (.badOperand "unary -" v.kind)
  | .pos, v =>
      match v.asInt? with
      | some n => .ok (int n)
      | none => .error (.badOperand "unary +" v.kind)
  | .invert, v =>
      match v.asInt? with
      | some n => .ok (int (-n - 1))
      | none => .error (.badOperand "unary ~" v.kind)

end Value

end Workflow
