import Mathlib.Data.Nat.Bitwise
import Mathlib.Tactic.Positivity
import Mathlib.Tactic.Ring

/-! Byte strings and the unsigned big-endian integers they hold. -/

/-- A byte string, in the order it crosses the wire. -/
abbrev Bytes := List UInt8

namespace Octets

/-- The unsigned integer a byte string stands for, most significant byte first. -/
def bigEndian (bytes : Bytes) : Nat :=
  bytes.foldl (fun high byte => high * 256 + byte.toNat) 0

/-- An integer written in the given number of bytes, most significant byte first. -/
def toBigEndian : Nat → Nat → Bytes
  | 0, _ => []
  | width + 1, value => UInt8.ofNat (value / 256 ^ width % 256) :: toBigEndian width value

private theorem foldl_from (bytes : Bytes) (high : Nat) :
    bytes.foldl (fun high byte => high * 256 + byte.toNat) high =
      high * 256 ^ bytes.length + bigEndian bytes := by
  -- What was read before only moves up by one place per further byte.
  induction bytes generalizing high with
  | nil => simp [bigEndian]
  | cons byte rest ih =>
    simp only [bigEndian, List.foldl_cons, List.length_cons]
    rw [ih, ih (0 * 256 + byte.toNat)]
    ring

@[simp] theorem bigEndian_nil : bigEndian [] = 0 := rfl

theorem bigEndian_cons (byte : UInt8) (rest : Bytes) :
    bigEndian (byte :: rest) = byte.toNat * 256 ^ rest.length + bigEndian rest := by
  -- The first byte is the accumulator the remaining ones are read onto.
  simpa [bigEndian] using foldl_from rest byte.toNat

/-- A byte string holds no more than its width allows. -/
theorem bigEndian_lt (bytes : Bytes) : bigEndian bytes < 256 ^ bytes.length := by
  induction bytes with
  | nil => simp
  | cons byte rest ih =>
    -- The leading byte is at most 255, which leaves room for everything below it.
    rw [bigEndian_cons, List.length_cons, pow_succ]
    have top : byte.toNat + 1 ≤ 256 := byte.toNat_lt
    have room := Nat.mul_le_mul_right (256 ^ rest.length) top
    rw [Nat.add_mul, one_mul] at room
    omega

@[simp] theorem length_toBigEndian (width value : Nat) :
    (toBigEndian width value).length = width := by
  induction width with
  | zero => rfl
  | succ width ih => simp [toBigEndian, ih]

/-- Writing an integer and reading it back keeps the part that fits the width. -/
theorem bigEndian_toBigEndian (width value : Nat) :
    bigEndian (toBigEndian width value) = value % 256 ^ width := by
  induction width with
  | zero => simp [toBigEndian, Nat.mod_one]
  | succ width ih =>
    -- The byte written first is the digit above everything the rest can hold.
    have digit : (UInt8.ofNat (value / 256 ^ width % 256)).toNat = value / 256 ^ width % 256 := by
      simp
    rw [toBigEndian, bigEndian_cons, length_toBigEndian, digit, ih, pow_succ, Nat.mod_mul]
    ring

/-- Only the part of an integer that fits the width is written. -/
private theorem toBigEndian_add_mul (width value high : Nat) :
    toBigEndian width (value + high * 256 ^ width) = toBigEndian width value := by
  induction width generalizing high with
  | zero => rfl
  | succ width ih =>
    have power : high * 256 ^ (width + 1) = high * 256 * 256 ^ width := by ring
    rw [toBigEndian, toBigEndian, power, ih, Nat.add_mul_div_right _ _ (by positivity),
      Nat.add_mul_mod_self_right]

/-- Reading a byte string and writing it back at its own width changes nothing. -/
theorem toBigEndian_bigEndian (bytes : Bytes) :
    toBigEndian bytes.length (bigEndian bytes) = bytes := by
  induction bytes with
  | nil => rfl
  | cons byte rest ih =>
    -- The leading digit is the first byte, and it does not reach the others.
    have small := bigEndian_lt rest
    have digit : (bigEndian rest + byte.toNat * 256 ^ rest.length) / 256 ^ rest.length % 256 =
        byte.toNat := by
      rw [Nat.add_mul_div_right _ _ (by positivity), Nat.div_eq_of_lt small, Nat.zero_add]
      exact Nat.mod_eq_of_lt byte.toNat_lt
    rw [bigEndian_cons, Nat.add_comm, List.length_cons, toBigEndian, digit, toBigEndian_add_mul, ih]
    simp

end Octets
