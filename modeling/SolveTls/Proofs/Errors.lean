import SolveTls.Http2.H2

/-! Which errors a computation may raise, from what its parts may raise. -/

namespace SolveTls

variable {α β : Type} {allowed : Exn → Bool}

/-- A value is no error. -/
theorem raisesOnly_ok (value : α) : RaisesOnly allowed (.ok value : Except Exn α) := by
  intro raised returned
  cases returned

/-- An error that is raised by name is looked up in the class. -/
theorem raisesOnly_error {raised : Exn} (known : allowed raised = true) :
    RaisesOnly allowed (.error raised : Except Exn α) := by
  rintro _ ⟨⟩
  exact known

variable {outcome : Except Exn α}

/-- A wider class allows what a narrower one does. -/
theorem raisesOnly_mono {wider : Exn → Bool} (narrow : RaisesOnly allowed outcome)
    (included : ∀ raised, allowed raised = true → wider raised = true) :
    RaisesOnly wider outcome := by
  intro raised failed
  apply included
  exact narrow raised failed

/-- The error comes from the first half or from the rest. -/
theorem raisesOnly_bind {next : α → Except Exn β} (first : RaisesOnly allowed outcome)
    (second : ∀ value, RaisesOnly allowed (next value)) :
    RaisesOnly allowed (outcome >>= next) := by
  cases outcome with
  | error raised =>
    rintro _ ⟨⟩
    exact first raised rfl
  | ok value => exact second value

/-- What is made of the value has no bearing on errors. -/
theorem raisesOnly_map {change : α → β} (first : RaisesOnly allowed outcome) :
    RaisesOnly allowed (outcome.map change) := by
  cases outcome with
  | error raised =>
    rintro _ ⟨⟩
    exact first raised rfl
  | ok value => exact raisesOnly_ok _

/-- Both branches may be taken. -/
theorem raisesOnly_ite {condition : Prop} [Decidable condition] {yes no : Except Exn α}
    (first : RaisesOnly allowed yes) (second : RaisesOnly allowed no) :
    RaisesOnly allowed (if condition then yes else no) := by
  split
  · exact first
  · exact second

/-- A check in front of the rest raises an error by name. -/
theorem raisesOnly_guard {condition : Prop} [Decidable condition] {raised : Exn}
    {rest : Except Exn α} (known : allowed raised = true) (passed : RaisesOnly allowed rest) :
    RaisesOnly allowed (if condition then .error raised else rest) :=
  raisesOnly_ite (raisesOnly_error known) passed

/-- A loop raises what its steps raise. -/
theorem raisesOnly_mapM {step : α → Except Exn β} (each : ∀ item, RaisesOnly allowed (step item))
    (items : List α) : RaisesOnly allowed (items.mapM step) := by
  -- The induction is on the items; the first error ends the loop.
  induction items with
  | nil => exact raisesOnly_ok _
  | cons item rest ih =>
    rw [List.mapM_cons]
    exact raisesOnly_bind (each item) fun _ => raisesOnly_bind ih fun _ => raisesOnly_ok _

/-- So does a loop that is run for its checks alone. -/
theorem raisesOnly_forM {step : α → Except Exn PUnit} (each : ∀ item, RaisesOnly allowed (step item))
    (items : List α) : RaisesOnly allowed (items.forM step) := by
  induction items with
  | nil => exact raisesOnly_ok _
  | cons item rest ih => exact raisesOnly_bind (each item) fun _ => ih

/-- Building is passed on as it ended. -/
theorem liftBuilder_eq_ok {built : Except BuildError α} {value : α} :
    liftBuilder built = .ok value ↔ built = .ok value := by
  rcases built with ⟨⟨⟩⟩ | value <;> simp [liftBuilder]

/-- A frame that cannot be built is an error of the program itself. -/
theorem raisesOnly_liftBuilder (built : Except BuildError α) :
    RaisesOnly Exn.isOwn (liftBuilder built) := by
  rcases built with ⟨⟨⟩⟩ | value
  · exact raisesOnly_error rfl
  · exact raisesOnly_error rfl
  · exact raisesOnly_ok value

end SolveTls
