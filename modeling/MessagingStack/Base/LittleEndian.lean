import Mathlib.Data.UInt
import MessagingStack.Base.Text

/-!
# Numbers in bytes, the lowest first

A number below `256 ^ width` and its `width` bytes determine each other: `read_write` and
`write_read`.
-/

namespace MessagingStack.LittleEndian

/-- The lowest `width` bytes of a number, the lowest first. -/
def write : Nat → Nat → Bytes
  | 0, _ => []
  | width + 1, value => UInt8.ofNat (value % 256) :: write width (value / 256)

/-- The number whose bytes these are. -/
def read : Bytes → Nat
  | [] => 0
  | byte :: rest => byte.toNat + 256 * read rest

@[simp] theorem length_write (width value : Nat) : (write width value).length = width := by
  induction width generalizing value with
  | zero => rfl
  | succ width ih => rw [write, List.length_cons, ih]

theorem read_lt (bytes : Bytes) : read bytes < 256 ^ bytes.length := by
  induction bytes with
  | nil => exact Nat.one_pos
  | cons byte =>
    have small := byte.toNat_lt
    rw [read, List.length_cons, Nat.pow_succ]
    omega

/-- **What is written is read back**, as far as it fits. -/
theorem read_write (width value : Nat) : read (write width value) = value % 256 ^ width := by
  induction width generalizing value with
  | zero => rw [write, read, Nat.pow_zero, Nat.mod_one]
  | succ width ih =>
    have low : (UInt8.ofNat (value % 256)).toNat = value % 256 := by
      rw [UInt8.toNat_ofNat']
      omega
    rw [write, read, ih, low, Nat.pow_succ, Nat.mul_comm (256 ^ width) 256, Nat.mod_mul]

/-- **What is read is written back.** -/
theorem write_read (bytes : Bytes) : write bytes.length (read bytes) = bytes := by
  induction bytes with
  | nil => rfl
  | cons byte rest ih =>
    have small := byte.toNat_lt
    have low : (byte.toNat + 256 * read rest) % 256 = byte.toNat := by omega
    have high : (byte.toNat + 256 * read rest) / 256 = read rest := by omega
    rw [read, List.length_cons, write, low, high, ih, UInt8.ofNat_toNat]

end MessagingStack.LittleEndian
