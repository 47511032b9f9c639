import Mathlib.Data.Nat.Digits.Defs
import Mathlib.Tactic.IntervalCases

/-! Numbers written in digits can be read back, also behind leading zeros. -/

namespace Digits

/-- The characters that digits are written with. -/
def alphabet : List Char := "0123456789abcdef".toList

/-- The value of a digit. -/
def charValue (char : Char) : Nat :=
  if char.toNat < 0x61 then char.toNat - 0x30 else char.toNat - 0x57

/-- The number that digits stand for. -/
def value (base : Nat) (digits : List Char) : Nat :=
  digits.foldl (fun high char => high * base + charValue char) 0

/-- Each of the sixteen digits has its own character, and the character its value. -/
theorem digitChar_spec {digit : Nat} (small : digit < 16) :
    digit.digitChar ∈ alphabet ∧ charValue digit.digitChar = digit := by
  interval_cases digit <;> decide

/-- A digit more multiplies the value by the base. -/
theorem value_concat (base : Nat) (digits : List Char) (char : Char) :
    value base (digits ++ [char]) = value base digits * base + charValue char := by
  rw [value, List.foldl_append]
  rfl

/-- What a number is written as denotes that number, in digits of the alphabet. -/
theorem toDigits_spec {base : Nat} (binary : 1 < base) (known : base ≤ 16) (number : Nat) :
    (∀ char ∈ Nat.toDigits base number, char ∈ alphabet) ∧
      value base (Nat.toDigits base number) = number := by
  -- The induction is on the number, which loses its last digit.
  induction number using Nat.strongRecOn with
  | ind number ih =>
    by_cases small : number < base
    · obtain ⟨among, same⟩ := digitChar_spec (Nat.lt_of_lt_of_le small known)
      rw [Nat.toDigits_of_lt_base small]
      refine ⟨?_, ?_⟩
      · intro char member
        rw [List.mem_singleton.mp member]
        exact among
      · simp [value, same]
    · have large : base ≤ number := Nat.le_of_not_lt small
      have less : number / base < number := Nat.div_lt_self (by omega) binary
      have last : number % base < 16 := by
        have bound := Nat.mod_lt number (show 0 < base by omega)
        omega
      obtain ⟨among, same⟩ := digitChar_spec last
      obtain ⟨higher, reads⟩ := ih (number / base) less
      rw [Nat.toDigits_of_base_le binary large]
      refine ⟨?_, ?_⟩
      · intro char member
        rcases List.mem_append.mp member with member | member
        · exact higher char member
        · rw [List.mem_singleton.mp member]
          exact among
      · rw [value_concat, reads, same, Nat.mul_comm]
        exact Nat.div_add_mod number base

/-- Leading zeros do not count. -/
theorem value_zeros (base zeros : Nat) (digits : List Char) :
    value base (List.replicate zeros '0' ++ digits) = value base digits := by
  induction zeros with
  | zero => rfl
  | succ zeros ih =>
    rw [List.replicate_succ, List.cons_append, ← ih]
    simp [value, charValue]

end Digits
