import SolveTls.Proofs.Server.Lifecycle

/-! What concurrent `start()`, `close()` and `serve_forever()` calls can rely on. -/

namespace SolveTls

namespace Server

variable {world next : World} {call shutdown : Nat} {result : Except Exn Unit} {sockets : Sockets}
variable {listener : Listener}

/-- The shutdown has been created and is not through. -/
def World.Running (world : World) (shutdown : Nat) : Prop :=
  shutdown < world.shutdowns.length ∧ world.shutdownDone shutdown = false

/-- No listener is held, and every handler ever created is through. -/
def World.Drained (world : World) : Prop :=
  world.server = none ∧ world.httpServer = none ∧
    ∀ (client : Nat) handler, world.handlers[client]? = some handler → handler.done = true

/-- While the close task runs, a `close()` call that gets the lock joins it, and a `start()` call
that gets the lock is refused. -/
theorem close_joins_start_refused (current : world.closeTask = some shutdown)
    (running : world.shutdownDone shutdown = false)
    (stepped : step world (.call call (.ok ()) sockets) = some next) :
    (world.calls[call]? = some (.closeLocking none) →
      next = world.callGoto call (.joining shutdown none)) ∧
    ∀ http, world.calls[call]? = some (.startLocking http) →
      next = world.callGoto call
        (.ended (.error (.other "Server is already started or still closing"))) := by
  obtain ⟨point, found, resumed⟩ := Option.bind_eq_some_iff.mp stepped
  refine ⟨?_, ?_⟩
  · -- A call that asks for no listener in particular finds the task and joins it.
    intro closing
    obtain rfl := Option.some.inj (found.symm.trans closing)
    simp only [resumeCall, enterClose, current] at resumed
    grind
  · intro http starting
    obtain rfl := Option.some.inj (found.symm.trans starting)
    simp only [resumeCall, enterStart, current] at resumed
    -- The lock is taken and given back before the next await.
    have same : ∀ free : world.lock = none, { world with lock := none } = world := by
      intro free
      rw [← free]
    simp only [Option.mem_def, Option.some.injEq, exists_eq_left'] at resumed
    grind [endStart, World.shutdownDone]

/-! ## What the books say about each clause -/

section Sound

variable (sound : Sound world)

include sound

/-- An assigned listener stays in its field until a shutdown has closed it. -/
theorem Sound.placed (assigned : .assigned listener ∈ world.history) :
    (world.server = some listener ∨ world.httpServer = some listener) ∨
      ∃ shutdown, .closed shutdown listener ∈ world.history := by
  simpa only [mem_listeners] using (sound.assigned listener assigned).2

/-- A shutdown that runs is the close task. -/
theorem Sound.running (runs : world.Running shutdown) : world.closeTask = some shutdown := by
  obtain ⟨within, unfinished⟩ := runs
  refine (sound.shutdowns shutdown _ (List.getElem?_eq_getElem within)).current ?_
  simpa [World.shutdownDone, List.getElem?_eq_getElem within] using unfinished

/-- Once the close task is done, nothing is left to close. -/
theorem Sound.drained (current : world.closeTask = some shutdown)
    (done : world.shutdownDone shutdown = true) : world.Drained := by
  obtain ⟨task, found, ended⟩ : ∃ task, world.shutdowns[shutdown]? = some task ∧
      task.done = true := by
    simpa [World.shutdownDone, Option.getD_eq_iff] using done
  have stopping := sound.shutdowns shutdown task found
  unfold Shutdown.done at ended
  cases await : task.point <;> rw [await] at ended
  case finished clients =>
    rw [Stopping, await] at stopping
    obtain ⟨server, httpServer, rest⟩ := stopping current
    refine ⟨server, httpServer, fun client handler found => ?_⟩
    have within := (List.getElem?_eq_some_iff.mp found).1
    simpa [World.handlerDone, found] using rest.2 client within
  all_goals cases ended

/-- A shutdown that takes a step is the close task, before the step and after it. -/
theorem Sound.finishing (stepped : Server.step world (.shutdown shutdown) = some next) :
    next.closeTask = some shutdown := by
  obtain ⟨task, found, resumed⟩ := Option.bind_eq_some_iff.mp stepped
  have running : task.done = false := by
    unfold Shutdown.done
    split
    next await => rw [await] at resumed; cases resumed
    next => rfl
  have current := (sound.shutdowns shutdown task found).current running
  -- No await of a shutdown writes to the field.
  unfold Server.resumeShutdown at resumed
  grind [World.shutdownGoto, abortClients]

/-- A `start()` call that ends in an error after binding was waiting for its shutdown. -/
theorem Sound.rolledBack {raised : Exn}
    (stepped : Server.step world (.call call result sockets) = some next)
    (bound : .assigned { start := call, redirect := false } ∈ next.history)
    (failed : next.calls[call]? = some (.ended (.error raised))) :
    ∃ shutdown, world.closeTask = some shutdown ∧ next = endStart call (.error raised) world := by
  obtain ⟨point, found, resumed⟩ := Option.bind_eq_some_iff.mp stepped
  have calling := sound.calls call point found
  unfold Server.resumeCall at resumed
  split at resumed <;> try split at resumed
  all_goals cases resumed
  -- Only a call that was rolling back ends so; the others have not bound anything, or go on.
  all_goals
    simp only [Server.bindTls, Server.bindHttp, Server.saveSyn, Server.leaveClose,
      Server.enterClose, Server.rollBack, beginShutdown, endStart, enterStart, World.callGoto]
      at bound failed ⊢
    grind [Calling, World.Unassigned]

end Sound

/-- The gate is closed until a reset, and nothing gets through it before. -/
theorem reset_of_admitted {closing : Bool} {client : Nat} {between after : List Act}
    (ran : gate.run true (between ++ .admitted client :: after) = some closing) :
    ∃ start, .reset start ∈ between := by
  -- The induction is on the acts in between, with the gate still closed.
  induction between with
  | nil => cases ran
  | cons act between ih =>
    cases act with
    | reset start => exact ⟨start, List.mem_cons_self⟩
    | admitted client => cases ran
    | _ =>
      obtain ⟨start, member⟩ := ih ran
      exact ⟨start, List.mem_cons_of_mem _ member⟩

/-- Between a shutdown and a later admission the state has been reset. -/
theorem Sound.reset (sound : Sound world) {client : Nat} {before between after : List Act}
    (split : world.history =
      before ++ .shuttingDown shutdown :: (between ++ .admitted client :: after)) :
    ∃ start, .reset start ∈ between := by
  -- The gate has let the client through.
  have gated := sound.gated
  rw [split, Machine.run_append, Option.bind_eq_some_iff] at gated
  obtain ⟨closing, _, ran⟩ := gated
  exact reset_of_admitted ran

/-! ## What callers can rely on -/

/-- A listener is closed by one shutdown at most, and its field is cleared after that only; a
`serve_forever()` call closes no listener of another `start()`. -/
theorem listeners_closed_once (reached : machine.Reachable world) :
    (∀ first second listener, .closed first listener ∈ world.history →
      .closed second listener ∈ world.history → first = second) ∧
    (∀ listener, .assigned listener ∈ world.history →
      (world.server = some listener ∨ world.httpServer = some listener) ∨
        ∃ shutdown, .closed shutdown listener ∈ world.history) ∧
    (∀ begun listener, .stopped begun listener ∈ world.history → listener.start = begun.start) ∧
    ∀ shutdown listener task begun, .closed shutdown listener ∈ world.history →
      world.shutdowns[shutdown]? = some task → task.expected = some begun →
      listener.start = begun.start := by
  have sound := sound_of_reachable reached
  exact ⟨sound.once, fun _ => sound.placed, sound.stopped, sound.own⟩

/-- A redirecting listener cannot be bound, and the `start()` call is cancelled as it rolls back;
a `close()` call joins the shutdown, which ends. -/
def rolledBackEvents : List Event :=
  [.start true, .call 0 (.ok ()) {}, .call 0 (.ok ()) {}, .call 0 (.error (.other "in use")) {},
    .call 0 (.error .cancelled) {}, .close, .call 1 (.ok ()) {}, .shutdown 0, .shutdown 0,
    .shutdown 0]

theorem listeners_closed_once_rolledBack : ∃ world, machine.Reachable world ∧
    .closed 0 { start := 0, redirect := false } ∈ world.history ∧ world.server = none ∧
    ∀ other, .closed other { start := 0, redirect := false } ∈ world.history → 0 = other := by
  refine ⟨_, ⟨rolledBackEvents, rfl⟩, by decide, rfl, ?_⟩
  intro other
  exact (listeners_closed_once ⟨rolledBackEvents, rfl⟩).1 0 other _ (by decide)

/-- At most one shutdown runs, and after its creation no client gets a handler before a `start()`
resets the state; while it runs it is joined and not overlapped, and then no listener is held and no
handler is left. -/
theorem shutdown_exclusive (reached : machine.Reachable world) :
    (∀ first second, first < world.shutdowns.length → second < world.shutdowns.length →
      world.shutdownDone first = false → world.shutdownDone second = false → first = second) ∧
    (∀ before shutdown between client after, world.history =
      before ++ .shuttingDown shutdown :: (between ++ .admitted client :: after) →
      ∃ start, .reset start ∈ between) ∧
    ∀ shutdown, world.closeTask = some shutdown →
      (world.shutdownDone shutdown = false → ∀ call sockets next,
        step world (.call call (.ok ()) sockets) = some next →
        (world.calls[call]? = some (.closeLocking none) →
          next = world.callGoto call (.joining shutdown none)) ∧
        ∀ http, world.calls[call]? = some (.startLocking http) →
          next = world.callGoto call
            (.ended (.error (.other "Server is already started or still closing")))) ∧
      (world.shutdownDone shutdown = true → world.server = none ∧ world.httpServer = none ∧
        ∀ (client : Nat) handler, world.handlers[client]? = some handler →
          handler.done = true) := by
  have sound := sound_of_reachable reached
  refine ⟨?_, fun _ _ _ _ _ => sound.reset, fun shutdown current => ?_⟩
  · -- Both are the current one.
    intro first second created began running runs
    have same := sound.running ⟨created, running⟩
    exact Option.some.inj (same.symm.trans (sound.running ⟨began, runs⟩))
  · exact ⟨fun running _ _ _ => close_joins_start_refused current running, sound.drained current⟩

theorem shutdown_exclusive_rolledBack : ∃ world, machine.Reachable world ∧
    world.closeTask = some 0 ∧ world.shutdownDone 0 = true ∧ world.server = none := by
  refine ⟨_, ⟨rolledBackEvents, rfl⟩, rfl, rfl, ?_⟩
  exact (((shutdown_exclusive ⟨rolledBackEvents, rfl⟩).2.2 0 rfl).2 rfl).1

/-- A `start()` call that fails after binding leaves no listener, or a shutdown that still runs. -/
theorem start_rolled_back {raised : Exn} (reached : machine.Reachable world)
    (stepped : step world (.call call result sockets) = some next)
    (bound : .assigned { start := call, redirect := false } ∈ next.history)
    (failed : next.calls[call]? = some (.ended (.error raised))) :
    ∃ shutdown, next.closeTask = some shutdown ∧ next.lock = none ∧
      (next.shutdownDone shutdown = true → next.server = none ∧ next.httpServer = none) := by
  have sound := sound_of_reachable reached
  obtain ⟨shutdown, current, rfl⟩ := sound.rolledBack stepped bound failed
  refine ⟨shutdown, current, rfl, fun done => ?_⟩
  obtain ⟨server, httpServer, -⟩ := sound.drained current done
  exact ⟨server, httpServer⟩

theorem start_rolled_back_rolledBack : ∃ world next, machine.Reachable world ∧
    step world (.call 0 (.error .cancelled) {}) = some next ∧
    ∃ shutdown, next.closeTask = some shutdown ∧ next.lock = none ∧
      (next.shutdownDone shutdown = true → next.server = none ∧ next.httpServer = none) := by
  refine ⟨_, _, ⟨rolledBackEvents.take 4, rfl⟩, rfl, ?_⟩
  exact @start_rolled_back _ _ 0 (.error .cancelled) {} .cancelled ⟨rolledBackEvents.take 4, rfl⟩
    rfl (by decide) rfl

/-- The listener lifecycle is safe in every state of every run. -/
theorem lifecycle_safe (reached : machine.Reachable world) :
    -- At most one shutdown runs: the close task, which is joined and not overlapped.
    (∀ first second, world.Running first → world.Running second → first = second) ∧
    (∀ shutdown, world.Running shutdown → world.closeTask = some shutdown ∧
      ∀ call sockets next, step world (.call call (.ok ()) sockets) = some next →
        (world.calls[call]? = some (.closeLocking none) →
          next = world.callGoto call (.joining shutdown none)) ∧
        ∀ http, world.calls[call]? = some (.startLocking http) →
          next = world.callGoto call
            (.ended (.error (.other "Server is already started or still closing")))) ∧
    -- A listener is closed by one shutdown at most, and leaves its field after that only.
    (∀ first second listener, .closed first listener ∈ world.history →
      .closed second listener ∈ world.history → first = second) ∧
    (∀ listener, .assigned listener ∈ world.history →
      (world.server = some listener ∨ world.httpServer = some listener) ∨
        ∃ shutdown, .closed shutdown listener ∈ world.history) ∧
    -- A `serve_forever()` call closes no listener of another `start()`, by itself or by a shutdown.
    (∀ begun listener, .stopped begun listener ∈ world.history → listener.start = begun.start) ∧
    (∀ shutdown listener task begun, .closed shutdown listener ∈ world.history →
      world.shutdowns[shutdown]? = some task → task.expected = some begun →
      listener.start = begun.start) ∧
    -- From the creation of a shutdown no client gets a handler before a `start()` resets the state.
    (∀ before shutdown between client after, world.history =
      before ++ .shuttingDown shutdown :: (between ++ .admitted client :: after) →
      ∃ start, .reset start ∈ between) ∧
    -- The step with which a shutdown ends leaves no listener and no handler.
    (∀ shutdown next, step world (.shutdown shutdown) = some next →
      next.shutdownDone shutdown = true → next.Drained) ∧
    -- A `start()` call that fails after binding leaves the same, or the close task running.
    ∀ call result sockets next raised, step world (.call call result sockets) = some next →
      .assigned { start := call, redirect := false } ∈ next.history →
      next.calls[call]? = some (.ended (.error raised)) →
      next.lock = none ∧ ∃ shutdown, next.closeTask = some shutdown ∧
        (next.Running shutdown ∨ next.Drained) := by
  have sound := sound_of_reachable reached
  refine ⟨?_, ?_, sound.once, fun _ => sound.placed, sound.stopped, sound.own,
    fun _ _ _ _ _ => sound.reset, ?_, ?_⟩
  · intro first second running runs
    exact Option.some.inj ((sound.running running).symm.trans (sound.running runs))
  · intro shutdown running
    exact ⟨sound.running running, fun _ _ _ => close_joins_start_refused (sound.running running) running.2⟩
  · intro shutdown next stepped done
    have kept : Sound next := sound.step (admitted_of_reachable reached) stepped
    exact kept.drained (sound.finishing stepped) done
  · intro call result sockets next raised stepped bound failed
    obtain ⟨shutdown, current, rfl⟩ := sound.rolledBack stepped bound failed
    refine ⟨rfl, shutdown, current, ?_⟩
    -- Giving the lock back changes neither the close task nor what is left to close.
    by_cases done : world.shutdownDone shutdown = true
    · exact .inr (sound.drained current done)
    · exact .inl ⟨sound.known shutdown current, Bool.eq_false_iff.mpr done⟩

theorem lifecycle_safe_rolledBack : ∃ world next, machine.Reachable world ∧
    world.closeTask = some 0 ∧ step world (.shutdown 0) = some next ∧ next.Drained ∧
    ∀ other, .closed other { start := 0, redirect := false } ∈ world.history → 0 = other := by
  have reached : machine.Reachable _ := ⟨rolledBackEvents.take 9, rfl⟩
  obtain ⟨-, alone, once, -, -, -, -, finished, -⟩ := lifecycle_safe reached
  exact ⟨_, _, reached, (alone 0 ⟨by decide, rfl⟩).1, rfl, finished 0 _ rfl rfl,
    fun other => once 0 other _ (by decide)⟩

end Server

end SolveTls
