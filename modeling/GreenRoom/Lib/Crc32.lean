import GreenRoom.Lib.PyStr
import Mathlib.Data.Nat.Digits.Lemmas
import Mathlib.Logic.Function.Iterate

/-!
# Bytes and numbers

Slices, numbers in little-endian order, the search for the last occurrence, and the
checksum CRC-32.

## Main definitions

* `Bytes.slice`, `Bytes.u16`, `Bytes.u32`, `Bytes.rfind`
* `Bytes.crc32`
-/

namespace Bytes

/-- `bytes[start:stop]`. -/
def slice (bytes : Bytes) (start stop : ℕ) : Bytes := (bytes.drop start).take (stop - start)

def byteAt (bytes : Bytes) (offset : ℕ) : ℕ := (bytes.getD offset 0).toNat

/-- `struct.unpack_from("<H", bytes, offset)`. -/
def u16 (bytes : Bytes) (offset : ℕ) : ℕ := bytes.byteAt offset + 0x100 * bytes.byteAt (offset + 1)

/-- `struct.unpack_from("<I", bytes, offset)`. -/
def u32 (bytes : Bytes) (offset : ℕ) : ℕ := bytes.u16 offset + 0x10000 * bytes.u16 (offset + 2)

/-- `bytes.rfind(pattern, start)`. -/
def rfind (bytes pattern : Bytes) (start : ℕ) : Option ℕ :=
  (List.range (bytes.length + 1)).reverse.find? fun i =>
    start ≤ i && i + pattern.length ≤ bytes.length && pattern.isPrefixOf (bytes.drop i)

/-! ## CRC-32 -/

def crcBit (crc : ℕ) : ℕ := if crc % 2 = 1 then crc / 2 ^^^ 0xEDB88320 else crc / 2

def crcByte (crc : ℕ) (b : UInt8) : ℕ := crcBit^[8] (crc ^^^ b.toNat)

/-- `binascii.crc32`. -/
def crc32 (bytes : Bytes) : ℕ := bytes.foldl crcByte 0xFFFFFFFF ^^^ 0xFFFFFFFF

end Bytes
