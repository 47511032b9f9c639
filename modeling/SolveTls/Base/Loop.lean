import SolveTls.Base.Fallible

/-! Loops of fallible turns, without a bound on the turns they may take. -/

namespace Fallible

variable {σ ε ρ ι : Type} {step : ρ → Fallible σ ε (Option ρ)} {turns : Nat} {place : ρ}
  {state final : σ} {outcome : Except ε Unit}

/--
A loop that comes to an end, after so many turns that went on.

A turn says where the next one begins, or that there is none.
-/
inductive Ends (step : ρ → Fallible σ ε (Option ρ)) :
    (turns : Nat) → ρ → σ → Except ε Unit → σ → Prop where
  | stops {place : ρ} {state final : σ} (ran : step place state = (.ok none, final)) :
    Ends step 0 place state (.ok ()) final
  | raises {place : ρ} {state final : σ} {raised : ε} (ran : step place state = (.error raised, final)) :
    Ends step 0 place state (.error raised) final
  | goes {turns : Nat} {place next : ρ} {state reached final : σ} {outcome : Except ε Unit}
    (ran : step place state = (.ok (some next), reached))
    (later : Ends step turns next reached outcome final) :
    Ends step (turns + 1) place state outcome final

/-- Go on where a turn says, if it does. -/
def onward (next : ρ → Fallible σ ε Unit) : Option ρ → Fallible σ ε Unit
  | none => pure ()
  | some place => next place

/-- A loop whose turns use something up ends before they have used up more than there is. -/
theorem exists_ends (left : ρ → σ → Nat)
    (decreases : ∀ place next state reached, step place state = (.ok (some next), reached) →
      left next reached < left place state) (place : ρ) (state : σ) :
    ∃ turns outcome final, Ends step turns place state outcome final ∧ turns ≤ left place state := by
  -- The induction is on what is left.
  induction amount : left place state using Nat.strongRecOn generalizing place state with
  | ind amount ih =>
    rcases ran : step place state with ⟨raised | next, reached⟩
    · exact ⟨0, _, _, .raises ran, Nat.zero_le _⟩
    · cases next with
      | none => exact ⟨0, _, _, .stops ran, Nat.zero_le _⟩
      | some next =>
        have less := decreases _ _ _ _ ran
        rw [amount] at less
        obtain ⟨turns, outcome, final, later, bounded⟩ := ih _ less next reached rfl
        exact ⟨turns + 1, outcome, final, .goes ran later, by omega⟩

/-- A loop that is given more turns than it takes does not notice the bound. -/
theorem Ends.bounded (loop : Nat → ρ → Fallible σ ε Unit)
    (unrolls : ∀ turns place, loop (turns + 1) place = step place >>= onward (loop turns))
    (ends : Ends step turns place state outcome final) {bound : Nat} (enough : turns < bound) :
    loop bound place state = (outcome, final) := by
  induction ends generalizing bound with
  | stops ran =>
    obtain ⟨bound, rfl⟩ := Nat.exists_eq_succ_of_ne_zero (Nat.ne_of_gt enough)
    rw [unrolls, bind_apply, ran]
    rfl
  | raises ran =>
    obtain ⟨bound, rfl⟩ := Nat.exists_eq_succ_of_ne_zero (Nat.ne_of_gt enough)
    rw [unrolls, bind_apply, ran]
  | goes ran _ ih =>
    obtain ⟨bound, rfl⟩ := Nat.exists_eq_succ_of_ne_zero (Nat.ne_of_gt (Nat.zero_lt_of_lt enough))
    rw [unrolls, bind_apply, ran]
    exact ih (by omega)

/-- A loop whose every turn is given something from outside. -/
def scheduled (step : ι → ρ → Fallible σ ε (Option ρ)) (schedule : Nat → ι) :
    Nat × ρ → Fallible σ ε (Option (Nat × ρ)) :=
  fun (turn, place) => Option.map (turn + 1, ·) <$> step (schedule turn) place

/-- A turn of such a loop is a turn with what is given to it. -/
theorem scheduled_eq_ok {step : ι → ρ → Fallible σ ε (Option ρ)} {schedule : Nat → ι} {turn : Nat}
    {next : Nat × ρ} {reached : σ}
    (ran : scheduled step schedule (turn, place) state = (.ok (some next), reached)) :
    step (schedule turn) place state = (.ok (some next.2), reached) := by
  simp only [scheduled, map_eq_bind, bind_eq_ok, pure_eq_ok] at ran
  obtain ⟨went, middle, ran, mapped, rfl⟩ := ran
  cases went with
  | none => cases mapped
  | some place =>
    cases mapped
    exact ran

end Fallible
