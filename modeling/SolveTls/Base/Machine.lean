import Mathlib.Data.List.Induction

/-! Systems that move by events of their environment, and the rules for what every run keeps. -/

/-- A system: where it starts, and where an event takes it. -/
structure Machine (σ ε : Type) where
  start : σ
  /-- The state after an event, where the event can happen at all. -/
  step : σ → ε → Option σ

namespace Machine

variable {σ ε : Type} {machine : Machine σ ε} {state later : σ} {event : ε}
variable {events : List ε} {holds : σ → Prop}

/-- The state after a list of events, where each can happen in its turn. -/
def run (machine : Machine σ ε) : σ → List ε → Option σ
  | state, [] => some state
  | state, event :: events => (machine.step state event).bind fun next => run machine next events

/-- Some events lead from the first state to the second one. -/
def Reaches (machine : Machine σ ε) (state later : σ) : Prop :=
  ∃ events, machine.run state events = some later

/-- The states that the runs from the start go through. -/
def Reachable (machine : Machine σ ε) (state : σ) : Prop :=
  machine.Reaches machine.start state

/-- A run is its first event and then the rest. -/
theorem run_cons_eq_some :
    machine.run state (event :: events) = some later ↔
      ∃ next, machine.step state event = some next ∧ machine.run next events = some later :=
  Option.bind_eq_some_iff

/-- A run of two lists is the run of the second after that of the first. -/
theorem run_append (events more : List ε) :
    machine.run state (events ++ more) =
      (machine.run state events).bind fun next => machine.run next more := by
  induction events generalizing state with
  | nil => rfl
  | cons event events ih =>
    rw [List.cons_append, run, run, Option.bind_assoc]
    -- The first event is the same on both sides.
    congr 1
    funext next
    exact ih

/-- The last event of a run happens in the state that the others lead to. -/
theorem run_concat_eq_some :
    machine.run state (events ++ [event]) = some later ↔
      ∃ next, machine.run state events = some next ∧ machine.step next event = some later := by
  rw [run_append, Option.bind_eq_some_iff]
  simp [run]

/-- A property of events and the state they lead to, established one event at a time. -/
theorem run_induction {holds : List ε → σ → Prop} (empty : holds [] state)
    (steps : ∀ events middle event next, holds events middle →
      machine.step middle event = some next → holds (events ++ [event]) next)
    (ran : machine.run state events = some later) : holds events later := by
  -- The induction is on the events from their end, which is where a run grows.
  induction events using List.reverseRecOn generalizing later with
  | nil =>
    have same : state = later := Option.some.inj ran
    exact same ▸ empty
  | append_singleton events event ih =>
    obtain ⟨next, before, stepped⟩ := run_concat_eq_some.mp ran
    exact steps events next event later (ih before) stepped

/-- Nothing has to happen for a state to be reached from itself. -/
theorem Reaches.refl (machine : Machine σ ε) (state : σ) : machine.Reaches state state :=
  ⟨[], rfl⟩

/-- A property of states that every event keeps is kept by a whole run. -/
theorem Reaches.keeps (reached : machine.Reaches state later)
    (steps : ∀ state event next, holds state → machine.step state event = some next → holds next)
    (held : holds state) : holds later := by
  -- The induction is on the events, with the property moving along the run.
  obtain ⟨events, ran⟩ := reached
  induction events generalizing state with
  | nil =>
    have same : state = later := Option.some.inj ran
    exact same ▸ held
  | cons event events ih =>
    obtain ⟨next, stepped, ran⟩ := run_cons_eq_some.mp ran
    exact ih (steps state event next held stepped) ran

/-- What holds at the start and is kept by every event holds in every reachable state. -/
theorem Reachable.invariant (reached : machine.Reachable state) (starts : holds machine.start)
    (steps : ∀ state event next, holds state → machine.step state event = some next → holds next) :
    holds state :=
  reached.keeps steps starts

end Machine
