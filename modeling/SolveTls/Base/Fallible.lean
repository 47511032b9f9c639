import Mathlib.Logic.Basic

/-! Stateful computations that may raise, keeping the state they had reached when they did. -/

/-- A computation over a mutable state that ends in a value or in a raised error. -/
def Fallible (σ ε α : Type) : Type :=
  -- The state survives an error, as the attributes of an object survive an exception.
  σ → Except ε α × σ

namespace Fallible

variable {σ ε α β : Type}
variable {condition : Prop} {state : σ} {raised : ε} {result : Unit} {outcome : Except ε α}
  {weaker : σ → σ → Prop}

instance : Monad (Fallible σ ε) where
  pure value := fun state => (.ok value, state)
  bind action next := fun state =>
    match action state with
    | (.ok value, reached) => next value reached
    | (.error raised, reached) => (.error raised, reached)

instance : MonadExceptOf ε (Fallible σ ε) where
  throw raised := fun state => (.error raised, state)
  tryCatch action handler := fun state =>
    match action state with
    | (.ok value, reached) => (.ok value, reached)
    | (.error raised, reached) => handler raised reached

instance : MonadStateOf σ (Fallible σ ε) where
  get := fun state => (.ok state, state)
  set replacement := fun _ => (.ok (), replacement)
  modifyGet change := fun state => (.ok (change state).1, (change state).2)

/-- Raise when the condition holds, and go on otherwise. -/
def raiseIf (condition : Prop) [Decidable condition] (raised : ε) : Fallible σ ε Unit :=
  if condition then throw raised else pure ()

/-- Run the action only when the condition holds. -/
def runWhen (condition : Prop) [Decidable condition] (action : Fallible σ ε Unit) :
    Fallible σ ε Unit :=
  if condition then action else pure ()

/-- Turn an outcome that was computed elsewhere into a step of this computation. -/
def fromExcept : Except ε α → Fallible σ ε α
  | .ok value => pure value
  | .error raised => throw raised

/-- Run the cleanup on every exit; an error it raises replaces the outcome. -/
def ensuring (action : Fallible σ ε α) (cleanup : Fallible σ ε Unit) : Fallible σ ε α := fun state =>
  match action state with
  | (outcome, reached) =>
    match cleanup reached with
    | (.ok (), final) => (outcome, final)
    | (.error raised, final) => (.error raised, final)

/-! ### One equation per constructor -/

/-- A value is returned in the state it was computed in. -/
@[simp] theorem pure_apply (value : α) (state : σ) :
    (pure value : Fallible σ ε α) state = (.ok value, state) := rfl

/-- An error is raised in the state it came up in. -/
@[simp] theorem throw_apply (raised : ε) (state : σ) :
    (throw raised : Fallible σ ε α) state = (.error raised, state) := rfl

/-- Reading the state returns it. -/
@[simp] theorem get_apply (state : σ) : (get : Fallible σ ε σ) state = (.ok state, state) := rfl

/-- Writing the state forgets the one before. -/
@[simp] theorem set_apply (replacement state : σ) :
    (set replacement : Fallible σ ε Unit) state = (.ok (), replacement) := rfl

/-- A change is made and nothing is returned. -/
@[simp] theorem modify_apply (change : σ → σ) (state : σ) :
    (modify change : Fallible σ ε Unit) state = (.ok (), change state) := rfl

/-- A sequence goes on only after a value. -/
theorem bind_apply (action : Fallible σ ε α) (next : α → Fallible σ ε β) (state : σ) :
    (action >>= next) state =
      match action state with
      | (.ok value, reached) => next value reached
      | (.error raised, reached) => (.error raised, reached) := rfl

/-- A handler runs only after an error. -/
theorem tryCatch_apply (action : Fallible σ ε α) (handler : ε → Fallible σ ε α) (state : σ) :
    (tryCatch action handler : Fallible σ ε α) state =
      match action state with
      | (.ok value, reached) => (.ok value, reached)
      | (.error raised, reached) => handler raised reached := rfl

/-- A guard whose condition holds raises. -/
@[simp] theorem raiseIf_pos [Decidable condition] (holds : condition) (raised : ε) :
    (raiseIf condition raised : Fallible σ ε Unit) = throw raised := if_pos holds

/-- A guard whose condition fails does nothing. -/
@[simp] theorem raiseIf_neg [Decidable condition] (fails : ¬ condition) (raised : ε) :
    (raiseIf condition raised : Fallible σ ε Unit) = pure () := if_neg fails

/-- A step whose condition holds is taken. -/
@[simp] theorem runWhen_pos [Decidable condition] (holds : condition) (action : Fallible σ ε Unit) :
    runWhen condition action = action := if_pos holds

/-- A step whose condition fails is left out. -/
@[simp] theorem runWhen_neg [Decidable condition] (fails : ¬ condition)
    (action : Fallible σ ε Unit) : runWhen condition action = pure () := if_neg fails

/-- What follows a value gets it. -/
@[simp] theorem pure_bind_eq (value : α) (next : α → Fallible σ ε β) :
    (pure value >>= next) = next value := rfl

/-- Nothing follows an error. -/
@[simp] theorem throw_bind_eq (raised : ε) (next : α → Fallible σ ε β) :
    (throw raised >>= next) = throw raised := rfl

/-- Steps may be grouped either way. -/
theorem bind_assoc_eq {γ : Type} (action : Fallible σ ε α) (next : α → Fallible σ ε β)
    (last : β → Fallible σ ε γ) :
    ((action >>= next) >>= last) = action >>= fun value => next value >>= last := by
  funext state
  simp only [bind_apply]
  rcases action state with ⟨raised | value, reached⟩ <;> rfl

/-- A result is changed by a last step. -/
theorem map_eq_bind (change : α → β) (action : Fallible σ ε α) :
    change <$> action = action >>= fun value => pure (change value) := rfl

/-- The cleanup runs whether the action returned or raised. -/
theorem ensuring_apply (action : Fallible σ ε α) (cleanup : Fallible σ ε Unit) (state : σ) :
    ensuring action cleanup state =
      match action state with
      | (outcome, reached) =>
        match cleanup reached with
        | (.ok (), final) => (outcome, final)
        | (.error raised, final) => (.error raised, final) := rfl

/-- The cleanup comes last, however it ends. -/
theorem ensuring_reached (action : Fallible σ ε α) (cleanup : Fallible σ ε Unit) (state : σ) :
    (ensuring action cleanup state).2 = (cleanup (action state).2).2 := by
  rw [ensuring_apply]
  rcases action state with ⟨outcome, reached⟩
  dsimp only
  rcases cleanup reached with ⟨raised | _, final⟩
  · rfl
  · rfl

/-! ### Reading a finished run backwards -/

variable {action : Fallible σ ε α} {next : α → Fallible σ ε β}

/-- A sequence returns exactly when both of its halves do. -/
theorem bind_eq_ok {final : σ} {result : β} : (action >>= next) state = (.ok result, final) ↔
      ∃ value reached, action state = (.ok value, reached) ∧
        next value reached = (.ok result, final) := by
  -- An error of the first half is the error of the whole, so it cannot return.
  rw [bind_apply]
  rcases action state with ⟨_ | value, reached⟩
  · simp
  · constructor
    · exact fun returned => ⟨value, reached, rfl, returned⟩
    · rintro ⟨_, _, ⟨⟩, returned⟩
      exact returned

/-- A sequence raises when its first half does, or when the rest does after it. -/
theorem bind_eq_error {final : σ} : (action >>= next) state = (.error raised, final) ↔
      action state = (.error raised, final) ∨
      ∃ value reached, action state = (.ok value, reached) ∧
        next value reached = (.error raised, final) := by
  rw [bind_apply]
  rcases action state with ⟨_ | value, reached⟩
  · simp
  · constructor
    · exact fun failed => .inr ⟨value, reached, rfl, failed⟩
    · rintro (⟨⟨⟩⟩ | ⟨_, _, ⟨⟩, failed⟩)
      exact failed

/-- A guard returns exactly when its condition fails, and changes nothing. -/
theorem raiseIf_eq_ok [Decidable condition] {final : σ} :
    (raiseIf condition raised : Fallible σ ε Unit) state = (.ok result, final) ↔
      ¬ condition ∧ state = final := by
  by_cases holds : condition <;> simp [holds]

/-- Returning a value is the only way `pure` can end. -/
theorem pure_eq_ok {value result : α} {final : σ} :
    (pure value : Fallible σ ε α) state = (.ok result, final) ↔ value = result ∧ state = final := by
  simp

/-- What is read is the state. -/
theorem get_eq_ok {final result : σ} :
    (get : Fallible σ ε σ) state = (.ok result, final) ↔ state = result ∧ state = final := by
  simp

/-- What was written is the state. -/
theorem set_eq_ok {final replacement : σ} :
    (set replacement : Fallible σ ε Unit) state = (.ok result, final) ↔ replacement = final := by
  simp

/-- A change cannot raise. -/
theorem modify_eq_ok {final : σ} {change : σ → σ} :
    (modify change : Fallible σ ε Unit) state = (.ok result, final) ↔ change state = final := by
  simp

/-- An error does not return. -/
theorem throw_eq_ok {final : σ} {result : α} :
    (throw raised : Fallible σ ε α) state = (.ok result, final) ↔ False := by
  simp

/-- A conditional step returns when its condition fails, or when the action returns. -/
theorem runWhen_eq_ok [Decidable condition] {action : Fallible σ ε Unit} {final : σ} :
    runWhen condition action state = (.ok (), final) ↔
      condition ∧ action state = (.ok (), final) ∨ ¬ condition ∧ state = final := by
  by_cases holds : condition <;> simp [holds]

/-- A step computed elsewhere leaves the state alone. -/
theorem fromExcept_eq_ok {value : α} {final : σ} :
    (fromExcept outcome : Fallible σ ε α) state = (.ok value, final) ↔
      outcome = .ok value ∧ state = final := by
  cases outcome <;> simp [fromExcept]

/-- What holds wherever the first half raises, and wherever the rest ends, holds at the end. -/
theorem bind_ends {ends : σ → Prop}
    (raises : ∀ raised reached, action state = (.error raised, reached) → ends reached)
    (returns : ∀ value reached, action state = (.ok value, reached) → ends (next value reached).2) :
    ends ((action >>= next) state).2 := by
  rw [bind_apply]
  rcases ran : action state with ⟨raised | value, reached⟩
  · exact raises raised reached ran
  · exact returns value reached ran

/-! ### From the steps of a computation to the whole of it -/

/-- A property of both branches is one of the choice between them. -/
theorem on_ite {property : (α : Type) → Fallible σ ε α → Prop} [Decidable condition]
    {yes no : Fallible σ ε α} (left : condition → property α yes)
    (right : ¬ condition → property α no) : property α (if condition then yes else no) := by
  split
  case isTrue holds => exact left holds
  case isFalse fails => exact right fails

/-- Properties of computations that a sequence has if all its steps have them. -/
structure Composed (property : (α : Type) → Fallible σ ε α → Prop) : Prop where
  pure : ∀ {α : Type} (value : α), property α (pure value)
  bind : ∀ {α β : Type} {action : Fallible σ ε α} {next : α → Fallible σ ε β},
    property α action → (∀ value, property β (next value)) → property β (action >>= next)

namespace Composed

variable {property : (α : Type) → Fallible σ ε α → Prop} (composed : Composed property)

include composed

/-- What is made of the result has no bearing on the property. -/
theorem map {change : α → β} (first : property α action) : property β (change <$> action) :=
  composed.bind first fun _ => composed.pure _

/-- A step that may be left out. -/
theorem on_runWhen [Decidable condition] {action : Fallible σ ε Unit}
    (taken : condition → property Unit action) : property Unit (runWhen condition action) :=
  on_ite taken fun _ => composed.pure ()

/-- A check has the property if raising its error has it. -/
theorem on_raiseIf [Decidable condition] (throws : property Unit (throw raised)) :
    property Unit (raiseIf condition raised) :=
  on_ite (fun _ => throws) fun _ => composed.pure ()

/-- A result that is passed on has the property if raising its error has it. -/
theorem on_fromExcept (throws : ∀ raised, outcome = .error raised → property α (throw raised)) :
    property α (fromExcept outcome) := by
  cases outcome with
  | ok value => exact composed.pure value
  | error raised => exact throws raised rfl

end Composed

/-! ### Relations kept from the first state to the last -/

/-- A relation between an earlier and a later state that chains along a run. -/
structure Progress (relation : σ → σ → Prop) : Prop where
  refl : ∀ state, relation state state
  trans : ∀ {first middle last}, relation first middle → relation middle last → relation first last

/-- Every exit of the computation, returned or raised, is related to the state it began in. -/
def Within (relation : σ → σ → Prop) (action : Fallible σ ε α) : Prop :=
  ∀ state, relation state (action state).2

variable {relation : σ → σ → Prop}

/-- The relation at the exit that a run is known to have taken. -/
theorem Within.reached (within : Within relation action) {final : σ}
    (ran : action state = (outcome, final)) :
    relation state final := by
  have kept := within state
  rwa [ran] at kept

/-- A weaker relation is kept too. -/
theorem Within.mono (within : Within relation action)
    (implies : ∀ before after, relation before after → weaker before after) :
    Within weaker action :=
  fun state => implies _ _ (within state)

section Progress

variable (progress : Progress relation)

include progress

/-- A value changes no state. -/
theorem Progress.within_pure (value : α) : Within relation (pure value : Fallible σ ε α) :=
  fun state => progress.refl state

/-- An error changes no state. -/
theorem Progress.within_throw (raised : ε) : Within relation (throw raised : Fallible σ ε α) :=
  fun state => progress.refl state

/-- Reading changes no state. -/
theorem Progress.within_get : Within relation (get : Fallible σ ε σ) :=
  fun state => progress.refl state

/-- From one state on: the rest starts where the first half returned. -/
theorem Progress.bind_at (first : relation state (action state).2)
    (rest : ∀ value reached, action state = (.ok value, reached) →
      relation reached (next value reached).2) : relation state ((action >>= next) state).2 := by
  refine bind_ends (fun raised reached ran => ?_) fun value reached ran => ?_
  · rwa [ran] at first
  · rw [ran] at first
    exact progress.trans first (rest value reached ran)

/-- Steps that each keep the relation keep it in sequence, on the path that raises too. -/
theorem Progress.within_bind (first : Within relation action)
    (rest : ∀ value, Within relation (next value)) : Within relation (action >>= next) :=
  fun state => progress.bind_at (first state) fun value reached _ => rest value reached

variable {handler : ε → Fallible σ ε α}

/-- A handler continues from the state the error left behind. -/
theorem Progress.within_tryCatch (body : Within relation action)
    (caught : ∀ raised, Within relation (handler raised)) :
    Within relation (tryCatch action handler : Fallible σ ε α) := by
  intro state
  have kept := body state
  rw [tryCatch_apply]
  rcases ran : action state with ⟨raised | _, reached⟩ <;> rw [ran] at kept
  · exact progress.trans kept (caught raised reached)
  · exact kept

/-- A relation that every step keeps to is one that the computation keeps to. -/
theorem Progress.composed_within :
    Composed fun _ action => Within (ε := ε) relation action :=
  ⟨progress.within_pure, progress.within_bind⟩

/-- A step that may be left out keeps what it keeps when it is taken. -/
theorem Progress.within_runWhen (condition : Prop) [Decidable condition]
    {action : Fallible σ ε Unit} (kept : Within relation action) :
    Within relation (runWhen condition action) :=
  progress.composed_within.on_runWhen fun _ => kept

omit progress in
/-- A change is related to what it changed. -/
theorem within_modify {change : σ → σ} (kept : ∀ state, relation state (change state)) :
    Within relation (modify change : Fallible σ ε Unit) :=
  fun state => kept state

end Progress

/-! ### Computations that return -/

/-- Whenever the computation returns, the states before and after it are related. -/
def Returning (relation : σ → σ → Prop) (action : Fallible σ ε α) : Prop :=
  ∀ ⦃before value after⦄, action before = (.ok value, after) → relation before after

/-- A weaker relation holds where the computation returns too. -/
theorem Returning.mono (returning : Returning relation action)
    (implies : ∀ before after, relation before after → weaker before after) :
    Returning weaker action :=
  fun _ _ _ ran => implies _ _ (returning ran)

/-- A relation on every exit is one on the exits that return. -/
theorem Within.returning (within : Within relation action) :
    Returning relation action :=
  fun _ _ _ ran => within.reached ran

/-- Of a computation that raises there is nothing to show. -/
theorem returning_throw (raised : ε) : Returning relation (throw raised : Fallible σ ε α) := by
  -- What raises never returns.
  intro before value after ran
  exact (throw_eq_ok.mp ran).elim

/-- A sequence that returns has returned from both halves. -/
theorem Progress.returning_bind (progress : Progress relation) (first : Returning relation action)
    (rest : ∀ value, Returning relation (next value)) : Returning relation (action >>= next) := by
  intro before result after ran
  obtain ⟨value, reached, ran₁, ran₂⟩ := bind_eq_ok.mp ran
  exact progress.trans (first ran₁) (rest value ran₂)

/-- A value is returned in the same state. -/
theorem Progress.returning_pure (progress : Progress relation) (value : α) :
    Returning relation (pure value : Fallible σ ε α) :=
  (progress.within_pure value).returning

/-- The state is returned unchanged. -/
theorem Progress.returning_get (progress : Progress relation) :
    Returning relation (get : Fallible σ ε σ) :=
  progress.within_get.returning

/-- The same for methods that return. -/
theorem Progress.composed_returning (progress : Progress relation) :
    Composed fun _ action => Returning (ε := ε) relation action :=
  ⟨progress.returning_pure, progress.returning_bind⟩

/-- A change returns. -/
theorem returning_modify {change : σ → σ} (kept : ∀ state, relation state (change state)) :
    Returning relation (modify change : Fallible σ ε Unit) :=
  (within_modify kept).returning

/-- With a handler that only raises, what returned is the body. -/
theorem returning_tryCatch (body : Returning relation action)
    (raises : ∀ raised state value after, handler raised state ≠ (.ok value, after)) :
    Returning relation (tryCatch action handler : Fallible σ ε α) := by
  intro before value after ran
  rw [tryCatch_apply] at ran
  rcases tried : action before with ⟨raised | result, reached⟩ <;> rw [tried] at ran
  · exact (raises raised reached value after ran).elim
  · exact body (tried.trans ran)

/-! ### Parts of the state that a computation does not look at -/

/-- A change of the state that makes no difference to the computation and survives it. -/
def Commutes (change : σ → σ) (action : Fallible σ ε α) : Prop :=
  ∀ state, action (change state) = ((action state).1, change (action state).2)

variable {change : σ → σ}

/-- A value does not depend on the state. -/
theorem commutes_pure (value : α) : Commutes change (pure value : Fallible σ ε α) :=
  fun _ => rfl

/-- Neither does an error. -/
theorem commutes_throw (raised : ε) : Commutes change (throw raised : Fallible σ ε α) :=
  fun _ => rfl

/-- Two changes commute if they do as functions. -/
theorem commutes_modify {update : σ → σ} (same : ∀ state, update (change state) = change (update state)) :
    Commutes change (modify update : Fallible σ ε Unit) := by
  intro state
  rw [modify_apply, modify_apply, same]

/-- Steps that each commute with the change do so in sequence. -/
theorem commutes_bind (first : Commutes change action)
    (rest : ∀ value, Commutes change (next value)) :
    Commutes change (action >>= next) := by
  intro state
  rw [bind_apply, bind_apply, first state]
  rcases action state with ⟨raised | value, reached⟩
  · rfl
  · exact rest value reached

/-- The state may be read for everything but what the change touches. -/
theorem commutes_get_bind {next : σ → Fallible σ ε β} (same : ∀ state, next (change state) = next state)
    (rest : ∀ state, Commutes change (next state)) : Commutes change (get >>= next) := by
  intro state
  rw [bind_apply, bind_apply, get_apply, get_apply]
  dsimp only
  rw [same]
  exact rest state state

/-- A handler sees the same error, in the changed state. -/
theorem commutes_tryCatch (body : Commutes change action)
    (caught : ∀ raised, Commutes change (handler raised)) :
    Commutes change (tryCatch action handler : Fallible σ ε α) := by
  intro state
  rw [tryCatch_apply, tryCatch_apply, body state]
  rcases action state with ⟨raised | value, reached⟩
  · exact caught raised reached
  · rfl

/-- A computation whose steps all commute with the change does so itself. -/
theorem composed_commutes : Composed fun _ action => Commutes (ε := ε) change action :=
  ⟨commutes_pure, commutes_bind⟩

/-! ### Returned and raised states apart -/

/-- What is known of the states a computation returns in, and of those it raises in. -/
structure Exits (σ ε : Type) where
  returns : σ → σ → Prop
  raises : σ → ε → σ → Prop

namespace Exits

/-- The computation, begun in this state, ends as the exits say. -/
structure At (exits : Exits σ ε) (state : σ) (action : Fallible σ ε α) : Prop where
  returned : ∀ {value reached}, action state = (.ok value, reached) → exits.returns state reached
  raised : ∀ {error reached}, action state = (.error error, reached) →
    exits.raises state error reached

/-- A computation that is known to return takes one kind of exit. -/
theorem At.of_ok {exits : Exits σ ε} {value : α} {reached : σ}
    (ran : action state = (.ok value, reached)) (returns : exits.returns state reached) :
    exits.At state action := by
  constructor
  · intro _ _ ran'
    obtain ⟨-, rfl⟩ := Prod.mk.inj (ran.symm.trans ran')
    exact returns
  · intro _ _ ran'
    cases ran.symm.trans ran'

/-- A computation that is known to raise takes the other. -/
theorem At.of_error {exits : Exits σ ε} {reached : σ}
    (ran : action state = (.error raised, reached)) (raises : exits.raises state raised reached) :
    exits.At state action := by
  constructor
  · intro _ _ ran'
    cases ran.symm.trans ran'
  · intro _ _ ran'
    obtain ⟨same, rfl⟩ := Prod.mk.inj (ran.symm.trans ran')
    obtain rfl := Except.error.inj same
    exact raises

/-- Whatever state it begins in, the computation ends as the exits say. -/
def Covers (exits : Exits σ ε) (action : Fallible σ ε α) : Prop :=
  ∀ state, exits.At state action

/-- Exits that chain along a run: errors are seen from where the run began. -/
structure Chained (exits : Exits σ ε) : Prop where
  refl : ∀ state, exits.returns state state
  trans : ∀ {first middle last}, exits.returns first middle → exits.returns middle last →
    exits.returns first last
  onward : ∀ {first middle error last}, exits.returns first middle →
    exits.raises middle error last → exits.raises first error last

/-- A relation that is kept on every exit alike. -/
def alike (relation : σ → σ → Prop) : Exits σ ε where
  returns := relation
  raises before _ after := relation before after

/-- What chains along a run chains on every exit. -/
theorem chained_alike (progress : Progress relation) :
    Chained (alike relation : Exits σ ε) where
  refl := progress.refl
  trans := progress.trans
  onward := progress.trans

/-- A property that is kept, and gives way to another one where an error comes up. -/
def keeping (held : σ → Prop) (final : ε → σ → Prop) : Exits σ ε where
  returns before after := held before → held after
  raises before raised after := held before → final raised after

/-- What is kept by each step is kept by a run. -/
theorem chained_keeping {held : σ → Prop} {final : ε → σ → Prop} : (keeping held final).Chained where
  refl _ := id
  trans earlier later start := later (earlier start)
  onward earlier later start := later (earlier start)

/-- Whatever becomes of a computation, the weaker of the two properties holds. -/
theorem At.ends {held final : σ → Prop} (covered : (keeping held fun _ => final).At state action)
    (implies : ∀ {state}, held state → final state) (start : held state) :
    final (action state).2 := by
  rcases ran : action state with ⟨raised | value, reached⟩
  · exact covered.raised ran start
  · exact implies (covered.returned ran start)

/-- A relation that returned states have is kept on every exit if raised states have it too. -/
theorem Covers.within {exits : Exits σ ε} (covers : exits.Covers action)
    (raises : ∀ {before error after}, exits.raises before error after →
      exits.returns before after) : Within exits.returns action := by
  intro state
  rcases ran : action state with ⟨raised | value, reached⟩
  · exact raises ((covers state).raised ran)
  · exact (covers state).returned ran

/-- Exits of one kind are no more than a relation. -/
theorem covers_alike : (alike relation).Covers action ↔ Within relation action :=
  ⟨fun covers => covers.within id,
    fun within _ => ⟨fun ran => within.reached ran, fun ran => within.reached ran⟩⟩

/-- Exits that a computation may take at its end, after steps that others cover. -/
structure Leads (exits final : Exits σ ε) : Prop where
  stops : ∀ {before after}, exits.returns before after → final.returns before after
  fails : ∀ {before error after}, exits.raises before error after →
    final.raises before error after
  trans : ∀ {first middle last}, exits.returns first middle → final.returns middle last →
    final.returns first last
  onward : ∀ {first middle error last}, exits.returns first middle →
    final.raises middle error last → final.raises first error last

variable {exits final : Exits σ ε}

namespace Leads

/-- Steps that are not the last ones may be. -/
theorem covers (leads : Leads exits final) (covered : exits.Covers action) :
    final.Covers action := by
  intro state
  constructor
  · intro value reached ran
    exact leads.stops ((covered state).returned ran)
  · intro error reached ran
    exact leads.fails ((covered state).raised ran)

/-- From one state on: steps of the first kind, and then the last ones. -/
theorem at_bind (leads : Leads exits final) (first : exits.At state action)
    (rest : ∀ value reached, action state = (.ok value, reached) → final.At reached (next value)) :
    final.At state (action >>= next) := by
  constructor
  · intro result last ran
    obtain ⟨value, reached, ran₁, ran₂⟩ := bind_eq_ok.mp ran
    exact leads.trans (first.returned ran₁) ((rest value reached ran₁).returned ran₂)
  · intro error last ran
    -- The error comes from the first half, or from the rest after it.
    rcases bind_eq_error.mp ran with ran₁ | ⟨value, reached, ran₁, ran₂⟩
    · exact leads.fails (first.raised ran₁)
    · exact leads.onward (first.returned ran₁) ((rest value reached ran₁).raised ran₂)

/-- From any state: steps of the first kind, and then the last ones. -/
theorem covers_bind (leads : Leads exits final) (first : exits.Covers action)
    (rest : ∀ value, final.Covers (next value)) : final.Covers (action >>= next) :=
  fun state => leads.at_bind (first state) fun value reached _ => rest value reached

end Leads

namespace Chained

section Chains

variable (chained : exits.Chained)

include chained

/-- Steps of one kind may also be the last ones. -/
theorem leads : Leads exits exits :=
  ⟨id, id, chained.trans, chained.onward⟩

/-- Returning a value changes nothing. -/
theorem covers_pure (value : α) : exits.Covers (pure value : Fallible σ ε α) :=
  fun state => .of_ok rfl (chained.refl state)

/-- Looking at the state changes nothing. -/
theorem covers_get : exits.Covers (get : Fallible σ ε σ) :=
  fun state => .of_ok rfl (chained.refl state)

/-- From one state on: the rest starts where the first half returned. -/
theorem at_bind (first : exits.At state action)
    (rest : ∀ value reached, action state = (.ok value, reached) → exits.At reached (next value)) :
    exits.At state (action >>= next) :=
  chained.leads.at_bind first rest

/-- Exits that cover both halves cover the sequence. -/
theorem covers_bind (first : exits.Covers action)
    (rest : ∀ value, exits.Covers (next value)) : exits.Covers (action >>= next) :=
  fun state => chained.at_bind (first state) fun value reached _ => rest value reached

/-- Exits that cover the steps of a computation cover the computation. -/
theorem composed_covers : Composed fun _ action => exits.Covers action :=
  ⟨chained.covers_pure, chained.covers_bind⟩

/-- A conditional step is covered if the action is, in the states it runs in. -/
theorem covers_runWhen [Decidable condition] {action : Fallible σ ε Unit}
    (covers : condition → exits.Covers action) : exits.Covers (runWhen condition action) :=
  chained.composed_covers.on_runWhen covers

end Chains

end Chained

/-- An error that is raised leaves the state as it is. -/
theorem covers_throw (raises : ∀ state, exits.raises state raised state) :
    exits.Covers (throw raised : Fallible σ ε α) :=
  fun state => .of_error rfl (raises state)

/-- A change of the state returns. -/
theorem covers_modify {change : σ → σ} (kept : ∀ state, exits.returns state (change state)) :
    exits.Covers (modify change : Fallible σ ε Unit) :=
  fun state => .of_ok rfl (kept state)

/-- A handler goes on where the body raised. -/
theorem at_tryCatch {handler : ε → Fallible σ ε α}
    (returns : ∀ {value reached}, action state = (.ok value, reached) →
      exits.returns state reached)
    (handles : ∀ {raised reached}, action state = (.error raised, reached) →
      exits.At state fun _ => handler raised reached) :
    exits.At state (tryCatch action handler) := by
  rcases ran : action state with ⟨raised | value, reached⟩
  · have handled := handles ran
    constructor
    · intro _ _ ran'
      exact handled.returned (by rwa [tryCatch_apply, ran] at ran')
    · intro _ _ ran'
      exact handled.raised (by rwa [tryCatch_apply, ran] at ran')
  · exact .of_ok (by rw [tryCatch_apply, ran]) (returns ran)

/-- Both branches may be taken. -/
theorem covers_ite [Decidable condition] {yes no : Fallible σ ε α} (left : condition → exits.Covers yes)
    (right : ¬ condition → exits.Covers no) :
    exits.Covers (if condition then yes else no) := by
  split
  · exact left ‹_›
  · exact right ‹_›

/-- A guard changes nothing, whether it raises or not. -/
theorem Chained.covers_raiseIf (chained : exits.Chained) [Decidable condition]
    (raises : ∀ state, exits.raises state raised state) :
    exits.Covers (raiseIf condition raised : Fallible σ ε Unit) :=
  chained.composed_covers.on_raiseIf (covers_throw raises)

/-- A step computed elsewhere changes nothing, whether it raises or not. -/
theorem Chained.covers_fromExcept (chained : exits.Chained)
    (raises : ∀ raised, outcome = .error raised → ∀ state, exits.raises state raised state) :
    exits.Covers (fromExcept outcome : Fallible σ ε α) :=
  chained.composed_covers.on_fromExcept fun raised failed => covers_throw (raises raised failed)

end Exits

/-! ### States that a computation cannot tell apart -/

/-- From related states the computation ends in the same way, and in related states again. -/
def Uniform (relation : σ → σ → Prop) (action : Fallible σ ε α) : Prop :=
  ∀ first second, relation first second →
    (action first).1 = (action second).1 ∧ relation (action first).2 (action second).2

/-- A value is the same in both states. -/
theorem uniform_pure (value : α) : Uniform relation (pure value : Fallible σ ε α) :=
  fun _ _ related => ⟨rfl, related⟩

/-- So is an error. -/
theorem uniform_throw (raised : ε) : Uniform relation (throw raised : Fallible σ ε α) :=
  fun _ _ related => ⟨rfl, related⟩

/-- Steps that cannot tell the states apart cannot in sequence. -/
theorem uniform_bind (begins : Uniform relation action)
    (rest : ∀ value, Uniform relation (next value)) :
    Uniform relation (action >>= next) := by
  intro first second related
  obtain ⟨same, reached⟩ := begins first second related
  rw [bind_apply, bind_apply]
  rcases ran : action first with ⟨raised | value, after⟩
  · rcases ran' : action second with ⟨raised' | value', after'⟩ <;> rw [ran, ran'] at same reached
    · cases same
      exact ⟨rfl, reached⟩
    · cases same
  · rcases ran' : action second with ⟨raised' | value', after'⟩ <;> rw [ran, ran'] at same reached
    · cases same
    · cases same
      exact rest value after after' reached

/-- A computation whose steps cannot tell the states apart cannot either. -/
theorem composed_uniform : Composed fun _ action => Uniform (ε := ε) relation action :=
  ⟨uniform_pure, uniform_bind⟩

/-- Looking at what related states have in common does not tell them apart. -/
theorem uniform_observe {observe : σ → β} {next : β → Fallible σ ε α}
    (common : ∀ first second, relation first second → observe first = observe second)
    (rest : ∀ value, Uniform relation (next value)) :
    Uniform relation (get >>= fun state => next (observe state)) := by
  intro first second related
  have ran (state : σ) : (get >>= fun state => next (observe state) : Fallible σ ε α) state =
      next (observe state) state := rfl
  rw [ran, ran, common first second related]
  exact rest (observe second) first second related

/-! ### Loops that stop at the first error -/

/-- A loop returns what its first turn and the turns after it return. -/
theorem mapM_cons_eq_ok {step : α → Except ε β} {item : α} {rest : List α} {results : List β} :
    (item :: rest).mapM step = .ok results ↔ ∃ first others, step item = .ok first ∧
      rest.mapM step = .ok others ∧ results = first :: others := by
  rw [List.mapM_cons]
  cases step item with
  | error raised => simp [bind, Except.bind]
  | ok first =>
    cases rest.mapM step with
    | error raised => simp [bind, Except.bind]
    | ok others => simp [bind, Except.bind, pure, Except.pure, eq_comm]

end Fallible
