import RiftGPU.Word.LittleEndian

/-!
# Lossy decoding of UTF-8

Names that come over a C interface are byte strings. They are decoded as UTF-8, with the
replacement character in the place of every maximal part of a sequence that is not valid.

## Main definitions

* `Text.fromUtf8Lossy`: the decoded string.
-/

namespace Text

open Bytes

/-- The replacement character. -/
def replacement : Char := '\uFFFD'

/-- A byte that continues a sequence. -/
def isContinuation (b : Byte) : Bool := b &&& 0xC0#8 == 0x80#8

/-- The number of bytes of a sequence with this first byte, zero when there is none. -/
def utf8Width (b : Byte) : ℕ :=
  if b < 0x80#8 then 1
  else if 0xC2#8 ≤ b && b ≤ 0xDF#8 then 2
  else if 0xE0#8 ≤ b && b ≤ 0xEF#8 then 3
  else if 0xF0#8 ≤ b && b ≤ 0xF4#8 then 4
  else 0

/-- The second bytes that may follow a first byte. Overlong forms, surrogates and values that are
too large are excluded here. -/
def isSecond (b second : Byte) : Bool :=
  isContinuation second && (b != 0xE0#8 || 0xA0#8 ≤ second) && (b != 0xED#8 || second ≤ 0x9F#8) &&
    (b != 0xF0#8 || 0x90#8 ≤ second) && (b != 0xF4#8 || second ≤ 0x8F#8)

/-- The character that starts with the byte `b`, and how many of the following bytes belong to
it. -/
def decodeFirst (b : Byte) (rest : List Byte) : Char × ℕ :=
  let byte (i : ℕ) : Byte := rest.getD i 0#8
  let bits (i : ℕ) : ℕ := (byte i).toNat % 64
  match utf8Width b with
  | 1 => (Char.ofNat b.toNat, 0)
  | 2 =>
    if isSecond b (byte 0) then (Char.ofNat (b.toNat % 32 * 64 + bits 0), 1)
    else (replacement, 0)
  | 3 =>
    if isSecond b (byte 0) then
      if isContinuation (byte 1) then
        (Char.ofNat ((b.toNat % 16 * 64 + bits 0) * 64 + bits 1), 2)
      else (replacement, 1)
    else (replacement, 0)
  | 4 =>
    if isSecond b (byte 0) then
      if isContinuation (byte 1) then
        if isContinuation (byte 2) then
          (Char.ofNat (((b.toNat % 8 * 64 + bits 0) * 64 + bits 1) * 64 + bits 2), 3)
        else (replacement, 2)
      else (replacement, 1)
    else (replacement, 0)
  | _ => (replacement, 0)

/-- The characters of a byte string, from which the first `skip` bytes were already decoded. -/
def decodeLossy : ℕ → List Byte → List Char
  | _, [] => []
  | skip + 1, _ :: rest => decodeLossy skip rest
  | 0, b :: rest => (decodeFirst b rest).1 :: decodeLossy (decodeFirst b rest).2 rest

/-- The string that a byte string decodes to. -/
def fromUtf8Lossy (bytes : List Byte) : String := String.ofList (decodeLossy 0 bytes)

example :
    fromUtf8Lossy [0x68#8, 0xC3#8, 0xA9#8, 0xFF#8, 0xE2#8, 0x82#8] = "h\u00e9\uFFFD\uFFFD" := by
  decide

end Text
