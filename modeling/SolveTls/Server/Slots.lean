import SolveTls.Server.World

/-! What one client may do with the slots of the server, and in which order. -/

namespace SolveTls

namespace Server

/-- Where a client stands with its slots. -/
inductive Slot where
  | fresh
  | refused
  /-- It has a report slot. -/
  | held
  /-- It has one, and its report is being stored. -/
  | saving
  | saved
  | released
  /-- It is no client of the server any more. -/
  | gone
  deriving DecidableEq, Repr

/-- A report slot is taken in this state. -/
def Slot.Holds (slot : Slot) : Prop :=
  slot = .held ∨ slot = .saving ∨ slot = .saved

/-- A slot is taken once, reports are built and stored only with it, and it is given back once. -/
def slotProtocol : Machine Slot Stage where
  start := .fresh
  step
    | .fresh, .refused => some .refused
    | .fresh, .reserved => some .held
    | .held, .built => some .held
    | .held, .saving => some .saving
    | .saving, .saved => some .saved
    | .held, .released | .saved, .released => some .released
    | .fresh, .removed | .refused, .removed | .released, .removed => some .gone
    | _, _ => none

end Server

end SolveTls
