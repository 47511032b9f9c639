import Mathlib.Data.Nat.Digits.Defs
import SolveTls.Http.Uri

/-! Decimal numbers in text are compared by their digits behind the leading zeros. -/

namespace SolveTls

open List

variable {digits : Text}
variable {char : Char}

theorem isDigit_iff : isDigit char = true ↔ 48 ≤ char.toNat ∧ char.toNat ≤ 57 := by
  simp only [isDigit, Bool.and_eq_true, decide_eq_true_eq, Char.le_def, UInt32.le_iff_toNat_le,
    Char.reduceVal, UInt32.reduceToNat]
  rfl

/-- A digit is the character that its value is written with. -/
theorem digitChar_of_isDigit (digit : isDigit char = true) :
    Nat.digitChar (char.toNat - '0'.toNat) = char := by
  obtain ⟨low, high⟩ := isDigit_iff.mp digit
  have written : ∀ value < 10, Nat.digitChar value = Char.ofNat (48 + value) := by decide
  have small : char.toNat - '0'.toNat < 10 := by
    show char.toNat - 48 < 10
    omega
  have same : 48 + (char.toNat - '0'.toNat) = char.toNat := by
    show 48 + (char.toNat - 48) = char.toNat
    omega
  rw [written _ small, same, Char.ofNat_toNat]

theorem textValue_concat (front : Text) (digit : Char) :
    textValue (front ++ [digit]) = textValue front * 10 + (digit.toNat - '0'.toNat) := by
  rw [textValue, foldl_append]
  rfl

/-- What a number is written as denotes that number. -/
theorem textValue_toDigits (number : Nat) : textValue (Nat.toDigits 10 number) = number := by
  have same : textValue (Nat.toDigits 10 number) =
      Nat.ofDigitChars 10 (Nat.toDigits 10 number) 0 := by
    simp only [textValue, Nat.ofDigitChars_eq_foldl, Nat.mul_comm]
  rw [same, Nat.ofDigitChars_ten_toDigits]

theorem isDigit_toDigits (number : Nat) : (Nat.toDigits 10 number).all isDigit = true := by
  rw [all_eq_true]
  intro char among
  have digit := Nat.isDigit_of_mem_toDigits (by omega) (by omega) among
  simpa [isDigit, Char.isDigit, Char.le_def] using digit

/-- Without its leading zeros, a number is written as the library writes it. -/
theorem significantDigits_eq (numeric : digits.all isDigit = true) :
    significantDigits digits = Nat.toDigits 10 (textValue digits) := by
  -- The induction is on the digits before the last one.
  induction digits using List.reverseRecOn with
  | nil => rfl
  | append_singleton front digit ih =>
    rw [all_append, Bool.and_eq_true] at numeric
    obtain ⟨known, last⟩ := numeric
    have last' : isDigit digit = true := by simpa using last
    have value := textValue_concat front digit
    have written := digitChar_of_isDigit last'
    have small : digit.toNat - '0'.toNat < 10 := by
      have range := isDigit_iff.mp last'
      show digit.toNat - 48 < 10
      omega
    have front' := ih known
    by_cases zeros : front.dropWhile (· = '0') = []
    · -- Only zeros stand before the last digit, which is all that counts.
      have none : textValue front = 0 := by
        rw [significantDigits, if_pos zeros] at front'
        rw [← textValue_toDigits (textValue front), ← front']
        rfl
      rw [value, none, Nat.zero_mul, Nat.zero_add, Nat.toDigits_of_lt_base small, written,
        significantDigits, dropWhile_append, zeros]
      by_cases zero : digit = '0'
      · simp [zero]
      · simp [zero]
    · -- The last digit is written behind the significant ones.
      rw [significantDigits, if_neg zeros] at front'
      have positive : 0 < textValue front := by
        by_contra nothing
        rw [Nat.eq_zero_of_not_pos nothing] at front'
        have head := head?_dropWhile_not (· = '0') front
        rw [front'] at head
        simp at head
      have kept : ¬ (front ++ [digit]).dropWhile (· = '0') = [] := by
        rw [dropWhile_append, front']
        simp
      have higher : (textValue front * 10 + (digit.toNat - '0'.toNat)) / 10 = textValue front := by
        omega
      have lowest : (textValue front * 10 + (digit.toNat - '0'.toNat)) % 10 =
          digit.toNat - '0'.toNat := by
        omega
      have large : 10 ≤ textValue front * 10 + (digit.toNat - '0'.toNat) := by omega
      rw [significantDigits, if_neg kept, value, Nat.toDigits_of_base_le (by omega) large, higher,
        lowest, written, ← front', dropWhile_append]
      simp [zeros]

/-- The same significant digits denote the same number. -/
theorem significantDigits_inj {others : Text} (numeric : digits.all isDigit = true)
    (numeric' : others.all isDigit = true) :
    significantDigits digits = significantDigits others ↔ textValue digits = textValue others := by
  rw [significantDigits_eq numeric, significantDigits_eq numeric']
  constructor
  · intro same
    rw [← textValue_toDigits (textValue digits), same, textValue_toDigits]
  · intro same
    rw [same]

/-- Leading zeros do not add to a number. -/
theorem textValue_significantDigits (numeric : digits.all isDigit = true) :
    textValue (significantDigits digits) = textValue digits := by
  rw [significantDigits_eq numeric, textValue_toDigits]

/-- How many significant digits there are bounds the number. -/
theorem length_significantDigits_le_iff (numeric : digits.all isDigit = true) {width : Nat}
    (some : 0 < width) : (significantDigits digits).length ≤ width ↔ textValue digits < 10 ^ width := by
  rw [significantDigits_eq numeric]
  exact Nat.length_toDigits_le_iff (by omega) some

/-- A valid port consists of digits and is small enough; that of a tunnel is not zero. -/
theorem validatePort_eq_ok {connect : Bool} {port : Text} :
    validatePort connect port = .ok () ↔ port.all isDigit = true ∧ textValue port ≤ 65535 ∧
      (connect = true → textValue port ≠ 0) := by
  unfold validatePort
  by_cases flawed : port ≠ [] ∧ ¬ port.all isDigit
  · rw [if_pos flawed]
    constructor
    · intro passed
      cases passed
    · intro valid
      exact absurd valid.1 flawed.2
  · have numeric : port.all isDigit = true := by
      by_contra other
      apply flawed
      refine ⟨?_, other⟩
      rintro rfl
      exact other rfl
    have width := length_significantDigits_le_iff numeric (show 0 < 5 by omega)
    have value := textValue_significantDigits numeric
    have zero := significantDigits_inj numeric (show (['0'] : Text).all isDigit = true by decide)
    have zero' : significantDigits port = ['0'] ↔ textValue port = 0 := zero
    simp only [if_neg flawed]
    rw [value, and_iff_right numeric]
    simp only [zero']
    by_cases large : (significantDigits port).length > 5 ∨ textValue port > 65535
    · -- More than five digits make a number that is too large as well.
      rw [if_pos large]
      constructor
      · intro passed
        cases passed
      · intro valid
        omega
    · rw [if_neg large]
      by_cases tunnel : connect = true ∧ textValue port = 0
      · rw [if_pos tunnel]
        constructor
        · intro passed
          cases passed
        · intro valid
          exact absurd tunnel.2 (valid.2 tunnel.1)
      · rw [if_neg tunnel]
        constructor
        · intro _
          refine ⟨by omega, ?_⟩
          intro connecting none
          exact tunnel ⟨connecting, none⟩
        · intro _
          rfl

end SolveTls
