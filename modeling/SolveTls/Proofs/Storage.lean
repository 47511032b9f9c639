import Mathlib.Data.List.Nodup
import Mathlib.Data.List.Perm.Basic
import Mathlib.Data.List.Range
import SolveTls.Storage

/-! No run of the storage loses a MongoDB client, and none closes one twice. -/

namespace SolveTls

open List

namespace Storage

variable {world next : World} {client : MongoClient} {held : List MongoClient} {closing : Nat}
  {caller : Caller} {construction : Construction} {outcome : Except Raised Bool} {raised : Raised}
variable {last : Option Outcome} {before after : Progress} {event : Event}

/-- The clients that the tasks were created for. -/
def World.closed (world : World) : List MongoClient :=
  world.closings.map ClosingTask.client

/-- How often `client.close()` was started. -/
def World.closeStarts (world : World) (client : MongoClient) : Nat :=
  world.closings.countP fun task => task.client = client ∧ task.progress ≠ .created

/-- The running call still holds the client: it initializes it, or has not begun to close it. -/
def World.Holds (world : World) (client : MongoClient) : Prop :=
  world.point = .initBeanie client ∨ { client, progress := .created } ∈ world.closings

/-- What a finished call leaves in the globals. -/
def Outcome.Leaves : Outcome → World → Prop
  | .closed _, world => world.client = none
  | .initialized (.error _), world => world.client = none
  | .initialized (.ok enabled), world => world.client.isSome = enabled

/-- Storage is off, every task is done, and each client is either held or was closed. -/
structure Disabled (held : List MongoClient) (world : World) : Prop where
  enabled : world.enabled = false
  client : world.client = none
  kept : (held ++ world.closed).Perm (List.range world.constructed)
  finished : ∀ task ∈ world.closings, task.progress = .done

/-- No call runs: each client is the current one or was closed. -/
structure Resting (last : Option Outcome) (world : World) : Prop where
  enabled : world.enabled = world.client.isSome
  kept : (world.client.toList ++ world.closed).Perm (List.range world.constructed)
  finished : ∀ task ∈ world.closings, task.progress = .done
  left : ∀ outcome, last = some outcome → outcome.Leaves world

/-- Only a failed initialization is cleaned up after. -/
def Caller.Failing (caller : Caller) : Prop :=
  ∀ outcome, caller = .cleanup outcome → ∃ raised, outcome = .error raised

/-- A call waits for one task, and all the others are done. -/
structure Awaiting (closing : Nat) (caller : Caller) (world : World) : Prop where
  enabled : world.enabled = false
  client : world.client = none
  kept : world.closed.Perm (List.range world.constructed)
  finished : ∀ index task, world.closings[index]? = some task → index ≠ closing →
    task.progress = .done
  failing : caller.Failing

/-- What holds at every await, by the await that it is. -/
def Owning (world : World) : Prop :=
  match world.point with
  | .idle last => Resting last world
  | .shielded closing caller | .cancelled closing caller => Awaiting closing caller world
  | .initBeanie client => Disabled [client] world

/-! ## What the code does between two awaits -/

/-- A client that is held goes to the task that closes it. -/
theorem Disabled.closeClient (disabled : Disabled [client] world) (failing : caller.Failing) :
    Owning (closeClient client caller world) := by
  show Awaiting world.closings.length caller _
  refine ⟨disabled.enabled, disabled.client, ?_, ?_, failing⟩
  · -- The client moves from the call to the end of the list of tasks.
    have moved : (world.closed ++ [client]).Perm ([client] ++ world.closed) :=
      perm_append_comm
    have kept := moved.trans disabled.kept
    simpa [World.closed, Storage.closeClient] using kept
  · -- The new task is the one awaited, so another index is that of an old task.
    intro index task found other
    apply disabled.finished
    have older : index < world.closings.length := by
      have within := (List.getElem?_eq_some_iff.mp found).1
      simp only [Storage.closeClient, length_append, length_singleton] at within
      omega
    rw [Storage.closeClient, List.getElem?_append_left older] at found
    exact mem_of_getElem? found

section Disabled

variable (disabled : Disabled [] world)

include disabled

/-- A call that ends with nothing owned rests. -/
theorem Disabled.resting {last : Outcome} (left : last.Leaves world) :
    Owning { world with point := .idle (some last) } := by
  show Resting (some last) _
  refine ⟨?_, ?_, disabled.finished, ?_⟩
  · show world.enabled = world.client.isSome
    rw [disabled.enabled, disabled.client]
    rfl
  · show (world.client.toList ++ world.closed).Perm _
    rw [disabled.client]
    exact disabled.kept
  · intro outcome same
    obtain rfl := Option.some.inj same
    -- The globals are read, and the point is none of them.
    cases last with
    | closed result => exact left
    | initialized result =>
      cases result with
      | error raised => exact left
      | ok enabled => exact left

/-- An initialization that fails with nothing held leaves the storage disabled. -/
theorem Disabled.leaveInit (raised : Raised) : Owning (leaveInit (.error raised) world) := by
  -- The message of a deadline changes, but an error stays an error.
  cases raised <;> exact disabled.resting disabled.client

omit disabled in
/-- The `finally` clause closes the client of a failed initialization. -/
theorem Disabled.finallyClause (disabled : Disabled [client] world) (raised : Raised) :
    Owning (finallyClause (some client) (.error raised) world) := by
  have off : (!world.enabled) = true := by rw [disabled.enabled]; rfl
  rw [Storage.finallyClause, if_pos off]
  apply disabled.closeClient
  intro outcome same
  exact ⟨raised, (Caller.cleanup.inj same).symm⟩

/-- One more client is constructed, and the call holds it. -/
theorem Disabled.construct (point : Point) :
    Disabled [world.constructed]
      { world with constructed := world.constructed + 1, point := point } := by
  refine ⟨disabled.enabled, disabled.client, ?_, disabled.finished⟩
  show ([world.constructed] ++ world.closed).Perm (List.range (world.constructed + 1))
  rw [range_succ]
  exact (disabled.kept.append_left [world.constructed]).trans perm_append_comm

/-- The rest of `init_storage`, whatever the driver makes of the connection string. -/
theorem Disabled.resumeInit (connectionString : String)
    (construction : Construction) : Owning (resumeInit connectionString construction world) := by
  unfold Storage.resumeInit
  by_cases empty : connectionString.isEmpty = true
  · -- An empty URL only disables the storage.
    rw [if_pos empty]
    apply disabled.resting
    show world.client.isSome = false
    rw [disabled.client]
    rfl
  · rw [if_neg empty]
    cases construction with
    | failed raised => exact disabled.leaveInit raised
    | withoutDatabase raised => exact (disabled.construct world.point).finallyClause raised
    | built => exact disabled.construct (.initBeanie world.constructed)

/-- The caller goes on when there is nothing left to close. -/
theorem Disabled.resumeCaller (failing : caller.Failing)
    (construction : Construction) : Owning (resumeCaller caller construction world) := by
  cases caller with
  | closeStorage => exact disabled.resting disabled.client
  | initStorage connectionString => exact disabled.resumeInit connectionString construction
  | cleanup outcome =>
    obtain ⟨raised, rfl⟩ := failing outcome rfl
    exact disabled.leaveInit raised

/-- A cancellation ends the caller, with nothing left to close either. -/
theorem Disabled.cancelCaller (caller : Caller) : Owning (cancelCaller caller world) := by
  cases caller with
  | closeStorage => exact disabled.resting disabled.client
  | initStorage connectionString => exact disabled.resting disabled.client
  | cleanup outcome => exact disabled.leaveInit .cancelled

end Disabled

/-- Once the awaited task is done too, nothing is left to close. -/
theorem Awaiting.disabled (awaiting : Awaiting closing caller world)
    (done : world.isDone closing = true) : Disabled [] world := by
  refine ⟨awaiting.enabled, awaiting.client, awaiting.kept, ?_⟩
  intro task member
  obtain ⟨index, found⟩ := mem_iff_getElem?.mp member
  by_cases same : index = closing
  · rw [World.isDone, ← same, found] at done
    exact Option.some.inj (of_decide_eq_true done)
  · exact awaiting.finished index task found same

/-- A call starts by giving up the current client. -/
theorem Resting.closeStorage (resting : Resting last world) (failing : caller.Failing)
    (construction : Construction) :
    Owning (closeStorage caller construction world) := by
  have kept := resting.kept
  rw [Storage.closeStorage]
  cases current : world.client with
  | none =>
    rw [current] at kept
    have disabled : Disabled [] { world with enabled := false, client := none } :=
      ⟨rfl, rfl, kept, resting.finished⟩
    exact disabled.resumeCaller failing construction
  | some client =>
    rw [current] at kept
    have disabled : Disabled [client] { world with enabled := false, client := none } :=
      ⟨rfl, rfl, kept, resting.finished⟩
    exact disabled.closeClient failing

/-- A cancellation of the wait ends the call, or the call waits again. -/
theorem Awaiting.cancelShield (awaiting : Awaiting closing caller world) :
    Owning (cancelShield closing caller world) := by
  rw [Storage.cancelShield]
  by_cases done : world.isDone closing = true
  · rw [if_pos done]
    exact (awaiting.disabled done).cancelCaller caller
  · rw [if_neg done]
    exact ⟨awaiting.enabled, awaiting.client, awaiting.kept, awaiting.finished, awaiting.failing⟩

/-- An initialized client becomes the current one. -/
theorem Disabled.beanieReturns (disabled : Disabled [client] world) :
    Owning (Storage.finallyClause (some client) (.ok true)
      { world with client := some client, enabled := true }) := by
  refine ⟨rfl, disabled.kept, disabled.finished, ?_⟩
  intro outcome same
  obtain rfl := Option.some.inj same
  rfl

/-! ## What the tasks do -/

/-- A task that moves is not done yet, and keeps its client. -/
theorem advance_cases (stepped : world.advance closing before after = some next) :
    ∃ task, world.closings[closing]? = some task ∧ task.progress = before ∧
      next = { world with
        closings := world.closings.set closing { task with progress := after } } := by
  rw [World.advance] at stepped
  cases found : world.closings[closing]? with
  | none => rw [found] at stepped; cases stepped
  | some task =>
    rw [found] at stepped
    by_cases ready : task.progress = before
    · simp only [if_pos ready, Option.some.injEq] at stepped
      exact ⟨task, rfl, ready, stepped.symm⟩
    · simp only [if_neg ready] at stepped
      cases stepped

/-- The clients of the tasks stay as they are when a task moves. -/
theorem closed_set {task : ClosingTask} (found : world.closings[closing]? = some task)
    (after : Progress) :
    (world.closings.set closing { task with progress := after }).map ClosingTask.client =
      world.closed := by
  obtain ⟨within, here⟩ := List.getElem?_eq_some_iff.mp found
  have bound : closing < world.closed.length := by simpa [World.closed] using within
  -- The client written back is the one that is there.
  have same := set_getElem_self bound
  rw [map_set, ← here]
  simpa [World.closed] using same

/-- A task that is not done is the awaited one, so its moves disturb nothing. -/
theorem Owning.advance (owning : Owning world) (unfinished : before ≠ .done)
    (stepped : world.advance closing before after = some next) : Owning next := by
  obtain ⟨task, found, ready, rfl⟩ := advance_cases stepped
  have pending : task.progress ≠ .done := by rw [ready]; exact unfinished
  have member := mem_of_getElem? found
  have wait : ∀ awaited caller point, Awaiting awaited caller world → Awaiting awaited caller
      { world with
        closings := world.closings.set closing { task with progress := after }
        point := point } := by
    intro awaited caller point awaiting
    have same : closing = awaited := by
      by_contra other
      exact pending (awaiting.finished closing task found other)
    refine ⟨awaiting.enabled, awaiting.client, ?_, ?_, awaiting.failing⟩
    · show (List.map _ _).Perm _
      rw [closed_set found]
      exact awaiting.kept
    · intro index other seen distinct
      rw [← same] at distinct
      rw [List.getElem?_set_ne (Ne.symm distinct)] at seen
      exact awaiting.finished index other seen (same ▸ distinct)
  unfold Owning at owning ⊢
  cases point : world.point with
  | idle last =>
    rw [point] at owning
    exact absurd (owning.finished task member) pending
  | initBeanie client =>
    rw [point] at owning
    exact absurd (owning.finished task member) pending
  | shielded awaited caller =>
    rw [point] at owning
    exact wait awaited caller (.shielded awaited caller) owning
  | cancelled awaited caller =>
    rw [point] at owning
    exact wait awaited caller (.cancelled awaited caller) owning

/-! ## Whole runs -/

/-- Neither call of the module is a cleanup. -/
theorem Caller.failing_closeStorage : Caller.closeStorage.Failing := by
  intro outcome same
  cases same

theorem Caller.failing_initStorage (connectionString : String) :
    (Caller.initStorage connectionString).Failing := by
  intro outcome same
  cases same

section Steps

variable (owning : Owning world) (stepped : step world event = some next)

include owning stepped

/-- From rest, only a call of the module moves the caller. -/
theorem Resting.step (resting : Resting last world) (idle : world.point = .idle last) :
    Owning next := by
  cases event with
  | closeStarts | closeEnds => exact owning.advance (by decide) stepped
  | initStorage connectionString construction =>
    simp only [Storage.step, idle, Option.some.injEq] at stepped
    rw [← stepped]
    exact resting.closeStorage (Caller.failing_initStorage connectionString) construction
  | closeStorage =>
    simp only [Storage.step, idle, Option.some.injEq] at stepped
    rw [← stepped]
    exact resting.closeStorage Caller.failing_closeStorage .built
  | closeAwaited | beanieReturns | beanieRaises | cancel =>
    simp only [Storage.step, idle, reduceCtorEq] at stepped

/-- From the shielded await, the call goes on when the task is done or the caller is cancelled. -/
theorem Awaiting.step_shielded (awaiting : Awaiting closing caller world)
    (shielded : world.point = .shielded closing caller) : Owning next := by
  cases event with
  | closeStarts | closeEnds => exact owning.advance (by decide) stepped
  | closeAwaited construction =>
    simp only [Storage.step, shielded, Option.ite_none_right_eq_some, Option.some.injEq] at stepped
    rw [← stepped.2]
    exact (awaiting.disabled stepped.1).resumeCaller awaiting.failing construction
  | cancel =>
    simp only [Storage.step, shielded, Option.some.injEq] at stepped
    rw [← stepped]
    exact awaiting.cancelShield
  | initStorage | closeStorage | beanieReturns | beanieRaises =>
    simp only [Storage.step, shielded, reduceCtorEq] at stepped

/-- From the await after a cancellation, the call ends with it once the task is done. -/
theorem Awaiting.step_cancelled (awaiting : Awaiting closing caller world)
    (cancelled : world.point = .cancelled closing caller) : Owning next := by
  cases event with
  | closeStarts | closeEnds => exact owning.advance (by decide) stepped
  | closeAwaited construction =>
    simp only [Storage.step, cancelled, Option.ite_none_right_eq_some, Option.some.injEq] at stepped
    rw [← stepped.2]
    exact (awaiting.disabled stepped.1).cancelCaller caller
  | cancel =>
    simp only [Storage.step, cancelled, Option.some.injEq] at stepped
    rw [← stepped]
    exact awaiting.cancelShield
  | initStorage | closeStorage | beanieReturns | beanieRaises =>
    simp only [Storage.step, cancelled, reduceCtorEq] at stepped

/-- The initialization of a client succeeds, fails or is cancelled. -/
theorem Disabled.step (disabled : Disabled [client] world)
    (initializing : world.point = .initBeanie client) : Owning next := by
  cases event with
  | closeStarts | closeEnds => exact owning.advance (by decide) stepped
  | beanieReturns =>
    simp only [Storage.step, initializing, Option.some.injEq] at stepped
    rw [← stepped]
    exact disabled.beanieReturns
  | beanieRaises raised =>
    simp only [Storage.step, initializing, Option.some.injEq] at stepped
    rw [← stepped]
    exact disabled.finallyClause raised
  | cancel =>
    simp only [Storage.step, initializing, Option.some.injEq] at stepped
    rw [← stepped]
    exact disabled.finallyClause .cancelled
  | initStorage | closeStorage | closeAwaited =>
    simp only [Storage.step, initializing, reduceCtorEq] at stepped

/-- Every event leads from an await where the clients are accounted for to another one. -/
theorem Owning.step : Owning next := by
  have here := owning
  unfold Owning at here
  cases point : world.point <;> rw [point] at here
  case idle last => exact here.step owning stepped point
  case shielded closing caller => exact here.step_shielded owning stepped point
  case cancelled closing caller => exact here.step_cancelled owning stepped point
  case initBeanie client => exact here.step owning stepped point

end Steps

/-- The clients are accounted for at every await of every run. -/
theorem owning_of_reachable (reached : machine.Reachable world) : Owning world := by
  apply reached.invariant
  · -- Nothing is constructed yet, and no call was made.
    refine ⟨rfl, .refl _, ?_, ?_⟩
    · intro task member
      cases member
    · intro outcome none
      cases none
  · intro state event next owning stepped
    exact owning.step stepped

/-- The client that the running call initializes. -/
def World.initializing (world : World) : Option MongoClient :=
  match world.point with
  | .initBeanie client => some client
  | _ => none

/-- Each constructed client is in one place, and only there. -/
theorem Owning.kept (owning : Owning world) :
    (world.client.toList ++ world.initializing.toList ++ world.closed).Perm
      (List.range world.constructed) := by
  unfold Owning at owning
  unfold World.initializing
  cases point : world.point <;> rw [point] at owning
  case idle last => simpa using owning.kept
  all_goals
    rw [owning.client]
    exact owning.kept

/-- The globals agree at every await. -/
theorem Owning.enabled_iff (owning : Owning world) :
    world.enabled = true ↔ world.client ≠ none := by
  unfold Owning at owning
  rw [← Option.isSome_iff_ne_none]
  cases point : world.point <;> rw [point] at owning
  case idle last => rw [owning.enabled]
  all_goals simp [owning.enabled, owning.client]

/-- The tasks of a client are those that wait to start and those that have called `close()`. -/
theorem count_closed (world : World) (client : MongoClient) :
    world.closed.count client =
      world.closings.countP (fun task => task = { client, progress := .created }) +
        world.closeStarts client := by
  unfold World.closed World.closeStarts
  induction world.closings with
  | nil => rfl
  | cons task closings ih =>
    obtain ⟨owner, progress⟩ := task
    simp only [map_cons, count_cons, countP_cons, ih, ClosingTask.mk.injEq]
    by_cases same : owner = client <;> by_cases fresh : progress = .created <;>
      simp [same, fresh] <;> omega

/-- A constructed client is the current one, is still held, or had its close started once. -/
theorem Owning.account (owning : Owning world) (constructed : client < world.constructed) :
    world.client = some client ∧ world.closeStarts client = 0 ∨
      world.Holds client ∧ world.closeStarts client = 0 ∨
      world.client ≠ some client ∧ ¬ world.Holds client ∧ world.closeStarts client = 1 := by
  -- The client is counted once over the three places.
  have once : (world.client.toList ++ world.initializing.toList ++ world.closed).count client = 1 := by
    rw [owning.kept.count_eq]
    exact count_eq_one_of_mem nodup_range (mem_range.mpr constructed)
  rw [count_append, count_append, count_closed] at once
  by_cases current : world.client = some client
  · left
    rw [current, Option.toList_some, count_singleton_self] at once
    exact ⟨current, by omega⟩
  right
  by_cases initializing : world.point = .initBeanie client
  · left
    have here : world.initializing = some client := by rw [World.initializing, initializing]
    rw [here, Option.toList_some, count_singleton_self] at once
    exact ⟨.inl initializing, by omega⟩
  by_cases created : { client, progress := .created } ∈ world.closings
  · left
    -- The one task of this client has not run yet.
    have waiting : 0 < world.closings.countP
        (fun task => task = { client, progress := .created }) := by
      rw [countP_pos_iff]
      exact ⟨_, created, by simp⟩
    exact ⟨.inr created, by omega⟩
  · right
    have absent : world.closings.countP
        (fun task => task = { client, progress := .created }) = 0 := by
      rw [countP_eq_zero]
      intro task member same
      exact created (of_decide_eq_true same ▸ member)
    have elsewhere : world.client.toList.count client = 0 := by
      rw [count_eq_zero]
      intro member
      exact current (Option.mem_toList.mp member)
    have uninitialized : world.initializing.toList.count client = 0 := by
      rw [count_eq_zero]
      intro member
      have here := Option.mem_toList.mp member
      rw [World.initializing] at here
      split at here
      next other point => exact initializing (Option.some.inj here ▸ point)
      next => cases here
    have unheld : ¬ world.Holds client := by
      intro holds
      exact holds.elim initializing created
    exact ⟨current, unheld, by omega⟩

/-- Between the calls, the clients that are not current were closed to the end, each of them once. -/
theorem ownership_kept (reached : machine.Reachable world) :
    (world.enabled = true ↔ world.client ≠ none) ∧
    (∀ client < world.constructed,
      world.client = some client ∧ world.closeStarts client = 0 ∨
        world.Holds client ∧ world.closeStarts client = 0 ∨
        world.client ≠ some client ∧ ¬ world.Holds client ∧ world.closeStarts client = 1) ∧
    ∀ last, world.point = .idle last →
      (∀ client < world.constructed,
        world.client = some client ∧ world.closeStarts client = 0 ∨
          world.client ≠ some client ∧ world.closeStarts client = 1) ∧
      (∀ task ∈ world.closings, task.progress = .done) ∧
      ∀ raised, last = some (.initialized (.error raised)) →
        world.enabled = false ∧ world.client = none := by
  have owning := owning_of_reachable reached
  refine ⟨owning.enabled_iff, fun client constructed => owning.account constructed, ?_⟩
  intro last idle
  have resting : Resting last world := by
    unfold Owning at owning
    rw [idle] at owning
    exact owning
  refine ⟨?_, resting.finished, ?_⟩
  · intro client constructed
    -- A call that has ended holds nothing.
    have unheld : ¬ world.Holds client := by
      rintro (initializing | created)
      · rw [idle] at initializing
        cases initializing
      · cases resting.finished _ created
    rcases owning.account constructed with current | holding | closed
    · exact .inl current
    · exact absurd holding.1 unheld
    · exact .inr ⟨closed.1, closed.2.2⟩
  · intro raised same
    have left : world.client = none := resting.left _ same
    refine ⟨?_, left⟩
    rw [resting.enabled, left]
    rfl

/-- A client is initialized, and the call that replaces it is cancelled twice while it closes. -/
def replacedEvents : List Event :=
  [.initStorage "mongodb://localhost/one" .built, .beanieReturns,
    .initStorage "mongodb://localhost/two" .built, .cancel, .closeStarts 0, .cancel,
    .closeEnds 0 (.ok ()), .closeAwaited .built]

theorem ownership_kept_replaced :
    ∃ world, machine.Reachable world ∧ world.constructed = 1 ∧
      world.point = .idle (some (.initialized (.error .cancelled))) ∧
      world.client = none ∧ world.closeStarts 0 = 1 := by
  refine ⟨_, ⟨replacedEvents, rfl⟩, rfl, rfl, ?_, rfl⟩
  exact ((ownership_kept ⟨replacedEvents, rfl⟩).2.2 _ rfl).2.2 .cancelled rfl |>.2

end Storage

end SolveTls
