import SolveTls.Base.Json
import SolveTls.Http.Fields

/-! Raw wire values paired with their registered names. -/

namespace SolveTls

/-- The identifiers reserved to exercise extension points. -/
def greaseValues : List Nat :=
  (List.range 16).map fun index => index * 0x1000 + 0x0A00 + index * 0x10 + 0x0A

/-- A number in decimal digits. -/
def decimalText (value : Nat) : Text := Nat.toDigits 10 value

/-- A number in hex digits, with at least four of them. -/
def hexText (value : Nat) : Text :=
  let digits := Nat.toDigits 16 value
  "0x".toList ++ List.replicate (4 - digits.length) '0' ++ digits

/-- Pair a raw wire value with its name, marking reserved ones as such. -/
def describe (value : Nat) (name : Option String) : Dict String Json :=
  let entry : Dict String Json := [
    ("value", .number value),
    ("hex", .text (hexText value)),
    ("name", match name with
      | some name => .text name.toList
      | none => .null)]
  if value ∈ greaseValues then entry.set "grease" (.bool true) else entry

end SolveTls
