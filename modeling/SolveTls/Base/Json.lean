import SolveTls.Base.Dict
import SolveTls.Base.Octets

/-! JSON values, and byte strings written into them as hex digits. -/

/-- A JSON value; the keys of an object keep the order they were stored in. -/
inductive Json where
  | null
  | bool (value : Bool)
  | number (value : Nat)
  | text (value : List Char)
  | list (items : List Json)
  | object (items : List (String × Json))

namespace Json

/-- The text of a string value. -/
def asText? : Json → Option (List Char)
  | .text value => some value
  | _ => none

/-- The items of a list value. -/
def asList? : Json → Option (List Json)
  | .list items => some items
  | _ => none

/-- The value an object stores under a key. -/
def field? (key : String) : Json → Option Json
  | .object items => Dict.get? items key
  | _ => none

end Json

namespace Hex

/-- The lower-case digit of a value below sixteen. -/
def digit (value : Nat) : Char :=
  if value < 10 then Char.ofNat (0x30 + value) else Char.ofNat (0x57 + value)

/-- The value of a hex digit in either case. -/
def digitValue (char : Char) : Option Nat :=
  let code := char.toNat
  if 0x30 ≤ code ∧ code ≤ 0x39 then some (code - 0x30)
  else if 0x61 ≤ code ∧ code ≤ 0x66 then some (code - 0x57)
  else if 0x41 ≤ code ∧ code ≤ 0x46 then some (code - 0x37)
  else none

/-- `bytes.hex`: two digits for each byte, high half first. -/
def encode (bytes : Bytes) : List Char :=
  bytes.flatMap fun byte => [digit (byte.toNat / 16), digit (byte.toNat % 16)]

/-- The white space that `bytes.fromhex` skips between bytes. -/
def isSpace (char : Char) : Bool := char = ' ' || 0x09 ≤ char.toNat && char.toNat ≤ 0x0D

/-- `bytes.fromhex`: pairs of digits, with white space allowed between them. -/
def decode : List Char → Option Bytes
  | [] => some []
  | high :: rest =>
    if isSpace high then decode rest
    else
      match rest with
      | [] => none
      | low :: rest =>
        match digitValue high, digitValue low, decode rest with
        | some upper, some lower, some bytes => some (UInt8.ofNat (16 * upper + lower) :: bytes)
        | _, _, _ => none

/-- A digit reads back as its value, and is no white space. -/
theorem digit_reads_back {value : Nat} (small : value < 16) :
    digitValue (digit value) = some value ∧ isSpace (digit value) = false := by
  -- There are sixteen digits to check.
  rcases value with _ | _ | _ | _ | _ | _ | _ | _ | _ | _ | _ | _ | _ | _ | _ | _ | value
  all_goals first | decide | omega

/-- A byte string written as hex digits is read back unchanged. -/
theorem decode_encode (bytes : Bytes) : decode (encode bytes) = some bytes := by
  induction bytes with
  | nil => rfl
  | cons byte rest ih =>
    -- The two halves of a byte are its quotient and remainder by sixteen.
    have below : byte.toNat < 256 := byte.toNat_lt
    obtain ⟨highValue, highDigit⟩ := digit_reads_back (by omega : byte.toNat / 16 < 16)
    obtain ⟨lowValue, -⟩ := digit_reads_back (by omega : byte.toNat % 16 < 16)
    have halves : 16 * (byte.toNat / 16) + byte.toNat % 16 = byte.toNat := by omega
    have shape : encode (byte :: rest) =
        digit (byte.toNat / 16) :: digit (byte.toNat % 16) :: encode rest := by
      simp [encode]
    rw [shape]
    simp only [decode, highDigit, Bool.false_eq_true, if_false, highValue, lowValue, ih, halves,
      UInt8.ofNat_toNat]

end Hex
