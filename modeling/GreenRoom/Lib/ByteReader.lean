import GreenRoom.Lib.Crc32

/-!
# Reading a buffer

Numbers in little-endian order, and reads that stay within a buffer.

## Main definitions

* `Bytes.littleEndian`, `Bytes.ofNat` — the number of some bytes, and the bytes of a number.
* `ReadFault` — a read outside the buffer, or a walk that does not end.
* `Bytes.read`, `Bytes.readUInt`

## Main results

* `Bytes.ofNat_littleEndian`, `Bytes.littleEndian_ofNat`
* `Bytes.drop_eq_slice_append` — a buffer is cut in two.
-/

namespace Bytes

/-! ## Numbers -/

def littleEndian : Bytes → ℕ
  | [] => 0
  | b :: bytes => b.toNat + 0x100 * littleEndian bytes

/-- `n` in `width` bytes. -/
def ofNat : ℕ → ℕ → Bytes
  | 0, _ => []
  | width + 1, n => UInt8.ofNat n :: ofNat width (n / 0x100)

@[simp]
theorem length_ofNat (width n : ℕ) : (ofNat width n).length = width := by
  induction width generalizing n with
  | zero => rfl
  | succ width ih => rw [ofNat, List.length_cons, ih]

theorem littleEndian_ofNat {width n : ℕ} (h : n < 0x100 ^ width) :
    littleEndian (ofNat width n) = n := by
  induction width generalizing n with
  | zero =>
      rw [Nat.pow_zero] at h
      rw [ofNat, littleEndian]
      omega
  | succ width ih =>
      have hrest : n / 0x100 < 0x100 ^ width := by
        rw [Nat.pow_succ] at h
        exact (Nat.div_lt_iff_lt_mul (by decide)).mpr h
      rw [ofNat, littleEndian, ih hrest, UInt8.toNat_ofNat']
      omega

theorem ofNat_littleEndian (bytes : Bytes) : ofNat bytes.length (littleEndian bytes) = bytes := by
  induction bytes with
  | nil => rfl
  | cons b bytes ih =>
      have hb := b.toNat_lt
      have hfirst : UInt8.ofNat (b.toNat + 0x100 * littleEndian bytes) = b := by
        apply UInt8.toNat_inj.mp
        rw [UInt8.toNat_ofNat']
        omega
      have hrest : (b.toNat + 0x100 * littleEndian bytes) / 0x100 = littleEndian bytes := by omega
      rw [List.length_cons, littleEndian, ofNat, hfirst, hrest, ih]

theorem littleEndian_lt (bytes : Bytes) : littleEndian bytes < 0x100 ^ bytes.length := by
  induction bytes with
  | nil => decide
  | cons b bytes ih =>
      have hb := b.toNat_lt
      rw [littleEndian, List.length_cons, Nat.pow_succ]
      omega

/-! ## Slices -/

theorem length_slice {bytes : Bytes} {start stop : ℕ} (h : stop ≤ bytes.length) :
    (bytes.slice start stop).length = stop - start := by
  rw [slice, List.length_take, List.length_drop]
  omega

theorem drop_eq_slice_append (bytes : Bytes) {start stop : ℕ} (h : start ≤ stop) :
    bytes.drop start = bytes.slice start stop ++ bytes.drop stop := by
  conv_lhs => rw [← List.take_append_drop (stop - start) (bytes.drop start)]
  rw [List.drop_drop, Nat.add_sub_cancel' h]
  rfl

/-- A slice of the rest of a buffer. -/
theorem slice_drop (bytes : Bytes) (offset start stop : ℕ) :
    slice (bytes.drop offset) start stop = slice bytes (offset + start) (offset + stop) := by
  rw [slice, slice, List.drop_drop, Nat.add_sub_add_left]

/-- A slice of a slice. -/
theorem slice_slice (bytes : Bytes) {start stop first last : ℕ} (h : start + last ≤ stop) :
    slice (bytes.slice start stop) first last = bytes.slice (start + first) (start + last) := by
  rw [slice, slice, slice, List.drop_take, List.take_take, List.drop_drop]
  congr 1
  omega

/-- The slice between a prefix and the rest. -/
theorem slice_append (front middle rest : Bytes) :
    slice (front ++ (middle ++ rest)) front.length (front.length + middle.length) = middle := by
  rw [slice, List.drop_left, Nat.add_sub_cancel_left, List.take_left]

/-! ## Reads -/

inductive ReadFault
  | outside | unending
  deriving DecidableEq, Repr

/-- A read of some bytes; outside the buffer is a fault. -/
def read (bytes : Bytes) (offset width : ℕ) : Except ReadFault Bytes :=
  if offset + width ≤ bytes.length then .ok (bytes.slice offset (offset + width))
  else .error .outside

def readUInt (bytes : Bytes) (offset width : ℕ) : Except ReadFault ℕ :=
  (bytes.read offset width).map littleEndian

theorem read_ok {bytes : Bytes} {offset width : ℕ} (h : offset + width ≤ bytes.length) :
    bytes.read offset width = .ok (bytes.slice offset (offset + width)) := if_pos h

theorem readUInt_ok {bytes : Bytes} {offset width : ℕ} (h : offset + width ≤ bytes.length) :
    bytes.readUInt offset width = .ok (littleEndian (bytes.slice offset (offset + width))) := by
  rw [readUInt, read_ok h]
  rfl

end Bytes
