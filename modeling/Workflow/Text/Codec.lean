import Workflow.Text.Quoted
import Workflow.Text.Utf8

/-!
# Encodings of texts

Texts as bytes and bytes as texts in the named encodings, with the ways to go on where
a character has no bytes or bytes have no character.
-/

namespace Workflow

namespace Text

/-- An encoding; those of wider units are little-endian, big-endian, or marked at the start. -/
inductive Codec where
  | utf8
  | ascii
  | latin1
  | utf16 (bigEndian : Option Bool)
  | utf32 (bigEndian : Option Bool)
  deriving Repr, DecidableEq

namespace Codec

/-- The encoding of a name; case and punctuation do not matter. -/
def ofName? (name : String) : Option Codec :=
  match String.ofList ((name.toList.map Char.toLower).filter fun c => c.isAlphanum) with
  | "utf8" => some utf8
  | "u8" => some utf8
  | "utf" => some utf8
  | "cp65001" => some utf8
  | "ascii" => some ascii
  | "usascii" => some ascii
  | "646" => some ascii
  | "latin1" => some latin1
  | "latin" => some latin1
  | "l1" => some latin1
  | "iso88591" => some latin1
  | "88591" => some latin1
  | "cp819" => some latin1
  | "utf16" => some (utf16 none)
  | "u16" => some (utf16 none)
  | "utf16le" => some (utf16 (some false))
  | "utf16be" => some (utf16 (some true))
  | "utf32" => some (utf32 none)
  | "u32" => some (utf32 none)
  | "utf32le" => some (utf32 (some false))
  | "utf32be" => some (utf32 (some true))
  | _ => none

/-- The name of an encoding in messages. -/
def label : Codec -> String
  | utf8 => "utf-8"
  | ascii => "ascii"
  | latin1 => "latin-1"
  | utf16 none => "utf-16"
  | utf16 (some false) => "utf-16-le"
  | utf16 (some true) => "utf-16-be"
  | utf32 none => "utf-32"
  | utf32 (some false) => "utf-32-le"
  | utf32 (some true) => "utf-32-be"

/-- The first code point beyond an encoding of one byte for each character. -/
def limit : Codec -> Nat
  | ascii => 128
  | latin1 => 256
  | _ => 0x110000

end Codec

/-- Why a text or some bytes cannot be converted. -/
inductive CodecFault where
  /-- Bytes without a character: the encoding, the first byte, its place, how many, and why. -/
  | decoding (codec : Codec) (first : UInt8) (position length : Nat) (reason : String)
  /-- Characters without bytes: the encoding, the first one, its place, and how many. -/
  | encoding (codec : Codec) (first : Char) (position length : Nat)
  /-- A way to go on that has no meaning, by its name. -/
  | unknownRecovery (name : String)
  /-- A way to go on that is for the other direction. -/
  | wrongRecovery
  deriving Repr, DecidableEq

namespace CodecFault

/-- The name of the class of a fault. -/
def name : CodecFault -> String
  | decoding .. => "UnicodeDecodeError"
  | encoding .. => "UnicodeEncodeError"
  | unknownRecovery _ => "LookupError"
  | wrongRecovery => "TypeError"

/-- The message about a run of bytes without a character. -/
def decodingMessage (label : String) (first : UInt8) (position length : Nat) (reason : String) :
    String :=
  if length = 1 then
    let hex := String.ofList (hexPadded 2 first.toNat)
    s!"'{label}' codec can't decode byte 0x{hex} in position {position}: {reason}"
  else
    s!"'{label}' codec can't decode bytes in position {position}-{position + length - 1}: {reason}"

/-- The message about a run of characters without bytes. -/
def encodingMessage (label : String) (first : Char) (position length : Nat) (reason : String) :
    String :=
  if length = 1 then
    let shown := String.ofList (escapedChar first)
    s!"'{label}' codec can't encode character '{shown}' in position {position}: {reason}"
  else
    s!"'{label}' codec can't encode characters in position {position}-{position + length - 1}: {reason}"

/-- The message of a fault. -/
def message : CodecFault -> String
  | decoding codec first position length reason =>
      decodingMessage codec.label first position length reason
  | encoding codec first position length =>
      encodingMessage codec.label first position length
        s!"ordinal not in range({codec.limit})"
  | unknownRecovery name => s!"unknown error handler name '{name}'"
  | wrongRecovery => "don't know how to handle UnicodeDecodeError in error callback"

end CodecFault

/-! ## Encoding -/

/-- What stands for a character without bytes. -/
def substitute (fault : CodecFault) (recovery : String) (c : Char) : Except CodecFault (List Char) :=
  match recovery with
  | "ignore" => .ok []
  | "replace" => .ok ['?']
  | "xmlcharrefreplace" => .ok (s!"&#{c.toNat};").toList
  | "backslashreplace" => .ok (escapedChar c)
  | "strict" => .error fault
  | "surrogateescape" => .error fault
  | "surrogatepass" => .error fault
  | name => .error (.unknownRecovery name)

/-- Encode in a limited set of characters, one byte each; `place` is the place in the whole text. -/
def encodeLimited (codec : Codec) (recovery : String) (place : Nat) :
    List Char -> Except CodecFault (List UInt8)
  | [] => .ok []
  | c :: rest => do
      let bytes (cs : List Char) : List UInt8 := cs.map fun c => UInt8.ofNat c.toNat
      if c.toNat < codec.limit then
        .ok (UInt8.ofNat c.toNat :: (<- encodeLimited codec recovery (place + 1) rest))
      else
        let run := (c :: rest).takeWhile fun c => codec.limit ≤ c.toNat
        let cs <- substitute (.encoding codec c place run.length) recovery c
        .ok (bytes cs ++ (<- encodeLimited codec recovery (place + 1) rest))

/-- The bytes of a number in a width, the most significant first when the order is big-endian. -/
def wideBytes (bigEndian : Bool) (width n : Nat) : List UInt8 :=
  let little := (List.range width).map fun i => UInt8.ofNat (n / Nat.pow 256 i % 256)
  if bigEndian then little.reverse else little

/-- The units of sixteen bits of a character. -/
def units16 (c : Char) : List Nat :=
  let n := c.toNat
  if n < 0x10000 then [n]
  else [0xd800 + (n - 0x10000) / 0x400, 0xdc00 + (n - 0x10000) % 0x400]

/-- The bytes of a text. -/
def Codec.encode (codec : Codec) (recovery : String) (s : String) :
    Except CodecFault (List UInt8) :=
  match codec with
  | .utf8 => .ok (encodeUtf8 s)
  | .utf16 order =>
      let units := s.toList.flatMap units16
      let units := if order.isNone then 0xfeff :: units else units
      .ok (units.flatMap (wideBytes (order.getD false) 2))
  | .utf32 order =>
      let units := s.toList.map Char.toNat
      let units := if order.isNone then 0xfeff :: units else units
      .ok (units.flatMap (wideBytes (order.getD false) 4))
  | codec => encodeLimited codec recovery 0 s.toList

/-! ## Decoding -/

/-- What stands for bytes without a character. -/
def replacement (fault : CodecFault) (recovery : String) (bytes : List UInt8) :
    Except CodecFault (List Char) :=
  match recovery with
  | "ignore" => .ok []
  | "replace" => .ok ['\ufffd']
  | "backslashreplace" => .ok (bytes.flatMap fun b => '\\' :: 'x' :: hexPadded 2 b.toNat)
  | "strict" => .error fault
  | "surrogatepass" => .error fault
  | "surrogateescape" => .ok ['\ufffd']
  | "xmlcharrefreplace" => .error .wrongRecovery
  | name => .error (.unknownRecovery name)

/-- Decode UTF-8; `skip` bytes still belong to what has been read. -/
def decodeUtf8With (recovery : String) (position skip : Nat) :
    List UInt8 -> Except CodecFault (List Char)
  | [] => .ok []
  | b :: rest =>
      match skip with
      | k + 1 => decodeUtf8With recovery (position + 1) k rest
      | 0 =>
          match decodeOne b rest with
          | .ok (c, further) => do
              .ok (c :: (<- decodeUtf8With recovery (position + 1) further rest))
          | .error (length, reason) => do
              let fault : CodecFault := .decoding .utf8 b position length reason.wording
              let cs <- replacement fault recovery ((b :: rest).take length)
              .ok (cs ++ (<- decodeUtf8With recovery (position + 1) (length - 1) rest))

/-- Decode a limited set of characters, one byte each. -/
def decodeLimited (codec : Codec) (recovery : String) (position : Nat) :
    List UInt8 -> Except CodecFault (List Char)
  | [] => .ok []
  | b :: rest => do
      let cs <-
        if b.toNat < codec.limit then .ok [Char.ofNat b.toNat]
        else
          replacement (.decoding codec b position 1 s!"ordinal not in range({codec.limit})")
            recovery [b]
      .ok (cs ++ (<- decodeLimited codec recovery (position + 1) rest))

/-- The number that some bytes stand for. -/
def wideNumber (bigEndian : Bool) (bytes : List UInt8) : Nat :=
  (if bigEndian then bytes else bytes.reverse).foldl (fun acc b => acc * 256 + b.toNat) 0

/-- Decode units of a width; the fuel is the number of bytes. -/
def decodeWide (codec : Codec) (recovery : String) (bigEndian : Bool) (width : Nat) :
    Nat -> Nat -> List UInt8 -> Except CodecFault (List Char)
  | 0, _, _ => .ok []
  | _ + 1, _, [] => .ok []
  | fuel + 1, position, b :: rest => do
      let fail (length : Nat) (reason : String) : Except CodecFault (List Char) := do
        let cs <- replacement (.decoding codec b position length reason) recovery
          ((b :: rest).take length)
        .ok (cs ++ (<- decodeWide codec recovery bigEndian width fuel (position + length)
          ((b :: rest).drop length)))
      let bytes := b :: rest
      if bytes.length < width then fail bytes.length "truncated data"
      else
        let n := wideNumber bigEndian (bytes.take width)
        let low := wideNumber bigEndian ((bytes.drop width).take width)
        if 0xd800 ≤ n && n < 0xdc00 && width = 2 then
          if bytes.length < 4 then fail bytes.length "unexpected end of data"
          else if 0xdc00 ≤ low && low < 0xe000 then
            .ok (Char.ofNat (0x10000 + (n - 0xd800) * 0x400 + (low - 0xdc00))
              :: (<- decodeWide codec recovery bigEndian width fuel (position + 4) (bytes.drop 4)))
          else fail 2 "illegal UTF-16 surrogate"
        else if 0xd800 ≤ n && n < 0xe000 then
          fail width (if width = 2 then "illegal encoding"
            else "code point in surrogate code point range(0xd800, 0xe000)")
        else if 0x110000 ≤ n then fail width "code point not in range(0x110000)"
        else
          .ok (Char.ofNat n
            :: (<- decodeWide codec recovery bigEndian width fuel (position + width)
              (bytes.drop width)))

/-- Decode units of a width, a mark at the start giving their order. -/
def decodeMarked (codec : Codec) (recovery : String) (order : Option Bool) (width : Nat)
    (bytes : List UInt8) : Except CodecFault (List Char) :=
  let mark (bigEndian : Bool) : Bool :=
    order.isNone && width ≤ bytes.length && wideNumber bigEndian (bytes.take width) == 0xfeff
  if mark false then decodeWide codec recovery false width bytes.length width (bytes.drop width)
  else if mark true then decodeWide codec recovery true width bytes.length width (bytes.drop width)
  else decodeWide codec recovery (order.getD false) width bytes.length 0 bytes

/-- The text of some bytes. -/
def Codec.decode (codec : Codec) (recovery : String) (bytes : List UInt8) :
    Except CodecFault (List Char) :=
  match codec with
  | .utf8 => decodeUtf8With recovery 0 0 bytes
  | .utf16 order => decodeMarked codec recovery order 2 bytes
  | .utf32 order => decodeMarked codec recovery order 4 bytes
  | codec => decodeLimited codec recovery 0 bytes

end Text

end Workflow
