import Mathlib.Data.List.Count
import SolveTls.Server.Slots

/-! What the order of the slot protocol means for what a client has done. -/

namespace SolveTls

namespace Server

variable {trace before after : List Stage} {slot next : Slot} {stage : Stage}

/-- What has happened by the time a client stands so. -/
def Tally (trace : List Stage) : Slot → Prop
  | .fresh => trace = []
  | .refused => trace = [.refused]
  | .held | .saving | .saved =>
    trace.count .reserved = 1 ∧ trace.count .released = 0 ∧ trace.count .removed = 0 ∧
      .refused ∉ trace
  | .released =>
    trace.count .reserved = 1 ∧ trace.count .released = 1 ∧ trace.count .removed = 0 ∧
      .refused ∉ trace
  | .gone =>
    trace.count .reserved ≤ 1 ∧ trace.count .released = trace.count .reserved ∧
      trace.count .removed = 1 ∧
      (.refused ∈ trace → .built ∉ trace ∧ .saving ∉ trace)

/-- The tally goes on with each stage that the protocol allows. -/
theorem Tally.step (tally : Tally trace slot) (stepped : slotProtocol.step slot stage = some next) :
    Tally (trace ++ [stage]) next := by
  cases slot <;> cases stage <;> cases stepped <;> simp_all [Tally]

/-- The stages of a client are counted by where it stands. -/
theorem tally_of_run (ran : slotProtocol.run .fresh trace = some slot) : Tally trace slot := by
  refine Machine.run_induction ?_ ?_ ran
  · rfl
  · intro events middle event next tally stepped
    exact tally.step stepped

/-- Reports are built and stored by a client that has taken its slot and not given it back. -/
theorem reserved_of_split (ran : slotProtocol.run .fresh (before ++ stage :: after) = some slot)
    (reporting : stage = .built ∨ stage = .saving ∨ stage = .saved) :
    .reserved ∈ before ∧ .released ∉ before := by
  -- The stages before this one lead to a state in which the protocol allows it.
  rw [Machine.run_append, Option.bind_eq_some_iff] at ran
  obtain ⟨middle, earlier, rest⟩ := ran
  obtain ⟨next, stepped, _⟩ := Machine.run_cons_eq_some.mp rest
  have tally := tally_of_run earlier
  have holding : before.count .reserved = 1 ∧ before.count .released = 0 := by
    cases middle <;> rcases reporting with rfl | rfl | rfl <;> cases stepped
    all_goals exact ⟨tally.1, tally.2.1⟩
  refine ⟨?_, ?_⟩
  · apply List.count_pos_iff.mp
    omega
  · exact List.count_eq_zero.mp holding.2

/-- A client that was refused a slot builds no report and stores none. -/
theorem refused_of_run (ran : slotProtocol.run .fresh trace = some slot)
    (refused : .refused ∈ trace) : .built ∉ trace ∧ .saving ∉ trace := by
  have tally := tally_of_run ran
  cases slot with
  | fresh => simp_all [Tally]
  | refused => simp_all [Tally]
  | held | saving | saved | released => exact absurd refused tally.2.2.2
  | gone => exact tally.2.2.2 refused

/-- A report slot is taken at most once, and given back no more often. -/
theorem counts_of_run (ran : slotProtocol.run .fresh trace = some slot) :
    trace.count .reserved ≤ 1 ∧ trace.count .released ≤ trace.count .reserved ∧
      trace.count .removed ≤ 1 ∧
      (slot.Holds ↔ trace.count .released < trace.count .reserved) ∧
      (slot = .gone ↔ .removed ∈ trace) := by
  have tally := tally_of_run ran
  cases slot <;> simp only [Tally] at tally
  case fresh => simp [tally, Slot.Holds]
  case refused => simp [tally, Slot.Holds]
  case gone =>
    have removed : Stage.removed ∈ trace := by
      apply List.count_pos_iff.mp
      omega
    refine ⟨by omega, by omega, by omega, ?_, by simp [removed]⟩
    simp only [Slot.Holds, reduceCtorEq, or_self, false_iff]
    omega
  all_goals
    have kept : Stage.removed ∉ trace := List.count_eq_zero.mp tally.2.2.1
    refine ⟨by omega, by omega, by omega, ?_, by simp [kept]⟩
    simp only [Slot.Holds, reduceCtorEq, or_true, true_or, or_self, true_iff, false_iff]
    omega

end Server

end SolveTls
