/-!
# UTF-8

Decoding of byte sequences, with the place and the reason of the first fault, and
encoding of texts.
-/

namespace Workflow

namespace Text

/-- Why a sequence of bytes is not UTF-8. -/
inductive Utf8Reason where
  | invalidStart
  | invalidContinuation
  | unexpectedEnd
  deriving Repr, DecidableEq

/-- The wording of a reason. -/
def Utf8Reason.wording : Utf8Reason -> String
  | .invalidStart => "invalid start byte"
  | .invalidContinuation => "invalid continuation byte"
  | .unexpectedEnd => "unexpected end of data"

/-- A fault of decoding: the first byte concerned, how many are, and why. -/
structure Utf8Fault where
  byte : UInt8
  position : Nat
  length : Nat
  reason : Utf8Reason
  deriving Repr, DecidableEq

/-- The message of a fault of decoding. -/
def Utf8Fault.message (f : Utf8Fault) : String :=
  let hex := String.ofList (Nat.toDigits 16 f.byte.toNat)
  if f.length = 1 then
    s!"'utf-8' codec can't decode byte 0x{hex} in position {f.position}: {f.reason.wording}"
  else
    let last := f.position + f.length - 1
    s!"'utf-8' codec can't decode bytes in position {f.position}-{last}: {f.reason.wording}"

/-- Whether a byte continues a character. -/
def isContinuation (b : UInt8) : Bool :=
  0x80 ≤ b.toNat && b.toNat < 0xc0

/-- The six bits a continuation byte adds. -/
def continuationBits (b : UInt8) : Nat :=
  b.toNat % 64

/-- Whether the second byte may follow the first in a character of three or four bytes. -/
def secondOk (first second : UInt8) : Bool :=
  isContinuation second
    && !(first == 0xe0 && second < 0xa0)
    && !(first == 0xed && 0xa0 ≤ second)
    && !(first == 0xf0 && second < 0x90)
    && !(first == 0xf4 && 0x90 ≤ second)

/-- Read one character; the number of further bytes it takes, or the length and reason of a fault. -/
def decodeOne (a : UInt8) (rest : List UInt8) : Except (Nat × Utf8Reason) (Char × Nat) :=
  let n := a.toNat
  if n < 0x80 then
    .ok (Char.ofNat n, 0)
  else if n < 0xc2 || 0xf5 ≤ n then
    .error (1, .invalidStart)
  else if n < 0xe0 then
    match rest with
    | [] => .error (1, .unexpectedEnd)
    | b :: _ =>
        if isContinuation b then .ok (Char.ofNat (n % 32 * 64 + continuationBits b), 1)
        else .error (1, .invalidContinuation)
  else if n < 0xf0 then
    match rest with
    | [] => .error (1, .unexpectedEnd)
    | b :: more =>
        if !secondOk a b then .error (1, .invalidContinuation)
        else
          match more with
          | [] => .error (2, .unexpectedEnd)
          | c :: _ =>
              if isContinuation c then
                .ok (Char.ofNat ((n % 16 * 64 + continuationBits b) * 64 + continuationBits c), 2)
              else .error (2, .invalidContinuation)
  else
    match rest with
    | [] => .error (1, .unexpectedEnd)
    | b :: more =>
        if !secondOk a b then .error (1, .invalidContinuation)
        else
          match more with
          | [] => .error (2, .unexpectedEnd)
          | c :: more =>
              if !isContinuation c then .error (2, .invalidContinuation)
              else
                match more with
                | [] => .error (3, .unexpectedEnd)
                | d :: _ =>
                    if isContinuation d then
                      .ok (Char.ofNat
                        (((n % 8 * 64 + continuationBits b) * 64 + continuationBits c) * 64
                          + continuationBits d), 3)
                    else .error (3, .invalidContinuation)

/-- Decode bytes as UTF-8. -/
def decodeUtf8 (bytes : List UInt8) : Except Utf8Fault (List Char) :=
  go 0 0 [] bytes
where
  /-- `skip` bytes still belong to the last character; the characters read stand last first. -/
  go (position skip : Nat) (acc : List Char) : List UInt8 -> Except Utf8Fault (List Char)
    | [] => .ok acc.reverse
    | b :: rest =>
        match skip with
        | k + 1 => go (position + 1) k acc rest
        | 0 =>
            match decodeOne b rest with
            | .ok (c, further) => go (position + 1) further (c :: acc) rest
            | .error (length, reason) => .error ⟨b, position, length, reason⟩

/-- The UTF-8 bytes of a text. -/
def encodeUtf8 (s : String) : List UInt8 :=
  s.toUTF8.toList

end Text

end Workflow
