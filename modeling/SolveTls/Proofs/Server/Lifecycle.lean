import SolveTls.Proofs.Server.Admission

/-! The lock, the listeners and the shutdowns of the server in every state of every run. -/

namespace SolveTls

open List

namespace Server

variable {world next : World} {call other shutdown client : Nat} {listener : Listener}
  {point later : CallPoint} {task : Shutdown} {sockets : Sockets} {result : Except Exn Unit}
variable {acts : List Act} {http : Bool} {serving : Option Serving}

/-- The listeners that the server object holds. -/
def World.listeners (world : World) : List Listener :=
  world.server.toList ++ world.httpServer.toList

theorem mem_listeners :
    listener ∈ world.listeners ↔ world.server = some listener ∨ world.httpServer = some listener := by
  simp [World.listeners, Option.mem_toList]

/-- The call is a `start()` that holds the lock. -/
def CallPoint.starting : CallPoint → Bool
  | .bindingTls _ | .bindingHttp | .servingTls | .servingHttp | .rollingBack _ _ => true
  | _ => false

/-- Every handler is through, apart from those of these clients. -/
def World.Attended (world : World) (clients : List Nat) : Prop :=
  (∀ client ∈ clients, client < world.handlers.length) ∧
    ∀ client, client < world.handlers.length → client ∈ clients ∨ world.handlerDone client = true

/-- No shutdown has closed this listener. -/
def World.Unclosed (world : World) (listener : Listener) : Prop :=
  ∀ shutdown, .closed shutdown listener ∉ world.history

/-- This call has not assigned a listener. -/
def World.Unassigned (world : World) (call : Nat) : Prop :=
  ∀ listener, .assigned listener ∈ world.history → listener.start ≠ call

/-- A `serve_forever()` call serves listeners of one `start()` only. -/
def Serving.Own (serving : Serving) : Prop :=
  ∀ listener ∈ serving.listeners, listener.start = serving.listener.start

/-- Whether the server is closing, where it admits no client as long as it is. -/
def gate : Machine Bool Act where
  start := false
  step
    | _, .shuttingDown _ => some true
    | _, .reset _ => some false
    | true, .admitted _ => none
    | closing, _ => some closing

/-- Acts that each leave the gate as it is do so together. -/
theorem gate_idle {closing : Bool} (idle : ∀ act ∈ acts, gate.step closing act = some closing) :
    gate.run closing acts = some closing := by
  induction acts with
  | nil => rfl
  | cons act acts ih =>
    rw [forall_mem_cons] at idle
    exact Machine.run_cons_eq_some.mpr ⟨closing, idle.1, ih idle.2⟩

/-- What the await of a call says about the server object. -/
def Calling (world : World) (call : Nat) : CallPoint → Prop
  | .startLocking _ => world.Unassigned call
  | .bindingTls _ =>
    world.lock = some call ∧ world.server = none ∧ world.httpServer = none ∧
      world.closeTask = none ∧ world.Unassigned call
  | .bindingHttp =>
    world.lock = some call ∧ world.server = some { start := call, redirect := false } ∧
      world.httpServer = none ∧ world.closeTask = none ∧
      .assigned { start := call, redirect := true } ∉ world.history
  | .servingTls | .servingHttp => world.lock = some call ∧ world.closeTask = none
  | .rollingBack shutdown _ => world.lock = some call ∧ world.closeTask = some shutdown
  | .closeLocking serving | .joining _ serving =>
    world.Unassigned call ∧ ∀ begun, serving = some begun → begun.Own
  | .serving serving | .gathering serving _ => world.Unassigned call ∧ serving.Own
  | .ended _ => True

/-- What the await of a shutdown says about the server object. -/
def Stopping (world : World) (shutdown : Nat) (task : Shutdown) : Prop :=
  match task.point with
  | .created =>
    -- The listeners are still those that the shutdown was created for.
    world.closeTask = some shutdown ∧
      (∀ server, task.expected = some server → world.server = some server) ∧
      ∀ listener ∈ world.listeners, world.Unclosed listener
  | .waiting _ clients | .gathering _ clients =>
    world.closeTask = some shutdown ∧
      (∀ listener ∈ world.listeners, .closed shutdown listener ∈ world.history) ∧
      world.Attended clients
  | .closing _ _ =>
    world.closeTask = some shutdown ∧
      (∀ listener ∈ world.listeners, .closed shutdown listener ∈ world.history) ∧
      world.Attended []
  | .finished _ =>
    -- A later `start()` call forgets about the shutdown.
    world.closeTask = some shutdown →
      world.server = none ∧ world.httpServer = none ∧ world.Attended []

/-- The fields of the server object agree with what has happened to the listeners. -/
structure Books (world : World) : Prop where
  closing : world.closing = world.closeTask.isSome
  gated : gate.run gate.start world.history = some world.closing
  known : ∀ shutdown, world.closeTask = some shutdown → shutdown < world.shutdowns.length
  unclosed : world.closeTask = none → ∀ listener ∈ world.listeners, world.Unclosed listener
  paired : ∀ listener, world.httpServer = some listener →
    ∃ server, world.server = some server ∧ server.start = listener.start
  held : ∀ listener ∈ world.listeners, .assigned listener ∈ world.history
  assigned : ∀ listener, .assigned listener ∈ world.history →
    listener.start < world.calls.length ∧
      (listener ∈ world.listeners ∨ ∃ shutdown, .closed shutdown listener ∈ world.history)
  closed : ∀ shutdown listener, .closed shutdown listener ∈ world.history →
    shutdown < world.shutdowns.length ∧ .assigned listener ∈ world.history
  once : ∀ shutdown other listener, .closed shutdown listener ∈ world.history →
    .closed other listener ∈ world.history → shutdown = other
  own : ∀ shutdown listener task server, .closed shutdown listener ∈ world.history →
    world.shutdowns[shutdown]? = some task → task.expected = some server →
    listener.start = server.start
  stopped : ∀ begun listener, .stopped begun listener ∈ world.history →
    listener.start = begun.start

/-- Every task stands as its await says, and the books are in order. -/
structure Sound (world : World) : Prop extends Books world where
  calls : ∀ call point, world.calls[call]? = some point → Calling world call point
  shutdowns : ∀ shutdown task, world.shutdowns[shutdown]? = some task →
    Stopping world shutdown task

/-! ## Who holds the lock, and which shutdown is running -/

/-- A `start()` call past its first await holds the lock. -/
theorem Calling.holder (calling : Calling world call point) (starting : point.starting = true) :
    world.lock = some call := by
  cases point <;> simp only [CallPoint.starting, Bool.false_eq_true] at starting
  all_goals exact calling.1

/-- A call that does not hold the lock only relies on not having assigned a listener. -/
theorem Calling.bystander (calling : Calling world call point) (idle : point.starting = false)
    (assigned : ∀ listener, listener.start = call → .assigned listener ∈ next.history →
      .assigned listener ∈ world.history) : Calling next call point := by
  cases point <;> grind [Calling, CallPoint.starting, World.Unassigned]

/-- A call relies on the lock and the close task, and on the listeners while it binds them. -/
theorem Calling.kept (calling : Calling world call point) (lock : next.lock = world.lock)
    (closeTask : next.closeTask = world.closeTask)
    (fields : world.closeTask = none →
      next.server = world.server ∧ next.httpServer = world.httpServer)
    (assigned : ∀ listener, .assigned listener ∈ next.history →
      .assigned listener ∈ world.history) : Calling next call point := by
  cases point <;> grind [Calling, World.Unassigned]

/-- A shutdown that is not through is the current one. -/
theorem Stopping.current (stopping : Stopping world shutdown task) (running : task.done = false) :
    world.closeTask = some shutdown := by
  unfold Stopping at stopping
  unfold Shutdown.done at running
  cases await : task.point <;> rw [await] at stopping running
  case finished clients => cases running
  all_goals exact stopping.1

/-- A shutdown that is through says nothing about a state in which it is not the current one. -/
theorem Stopping.of_done (done : task.done = true) (other : next.closeTask ≠ some shutdown) :
    Stopping next shutdown task := by
  unfold Shutdown.done at done
  unfold Stopping
  cases await : task.point <;> rw [await] at done
  case finished clients => exact fun current => absurd current other
  all_goals cases done

/-- A shutdown relies on these fields, on what was closed and on the handlers that are left. -/
theorem Stopping.kept (stopping : Stopping world shutdown task)
    (server : next.server = world.server) (httpServer : next.httpServer = world.httpServer)
    (closeTask : next.closeTask = world.closeTask)
    (closed : ∀ shutdown listener, .closed shutdown listener ∈ next.history ↔
      .closed shutdown listener ∈ world.history)
    (attended : ∀ clients, world.Attended clients → next.Attended clients) :
    Stopping next shutdown task := by
  unfold Stopping at stopping ⊢
  cases await : task.point <;> rw [await] at stopping <;>
    simp only [mem_listeners, World.Unclosed, server, httpServer, closeTask, closed] at stopping ⊢
  all_goals grind

/-- Apart from the current shutdown, all of them are through. -/
theorem Sound.done (sound : Sound world) (found : world.shutdowns[shutdown]? = some task)
    (other : world.closeTask ≠ some shutdown) : task.done = true := by
  by_contra running
  exact other ((sound.shutdowns shutdown task found).current (by simpa using running))

/-- A call that does not hold the lock is a bystander. -/
theorem Sound.idle (sound : Sound world) (found : world.calls[call]? = some point)
    (free : world.lock ≠ some call) : point.starting = false := by
  by_contra starting
  exact free ((sound.calls call point found).holder (by simpa using starting))

/-! ## What is done to the server object, one thing at a time -/

section

attribute [local grind =] mem_listeners
attribute [local grind] World.Unclosed World.callGoto World.shutdownGoto beginShutdown
attribute [local grind cases] Sound Books

variable {clients : List Nat}

section Sound

variable (sound : Sound world)

include sound

/-- One call moves, and every other one keeps what it relies on. -/
theorem Sound.calling (calls : next.calls = world.calls.set call later)
    (self : Calling next call later) (lock : world.lock = none ∨ world.lock = some call)
    (assigned : ∀ listener, listener.start ≠ call → .assigned listener ∈ next.history →
      .assigned listener ∈ world.history) (other : Nat) (point : CallPoint)
    (found : next.calls[other]? = some point) : Calling next other point := by
  by_cases same : other = call
  · grind
  · -- The lock is free or held by the call that moves.
    have before : world.calls[other]? = some point := by grind
    refine (sound.calls other point before).bystander (sound.idle before ?_) ?_
    · grind
    · grind

/-- The current shutdown moves, and the others are through. -/
theorem Sound.stopping {point : ShutdownPoint} (found : world.shutdowns[shutdown]? = some task)
    (current : world.closeTask = some shutdown) (closeTask : next.closeTask = world.closeTask)
    (shutdowns : next.shutdowns = world.shutdowns.modify shutdown fun task => { task with point })
    (self : Stopping next shutdown { task with point }) (other : Nat) (later : Shutdown)
    (here : next.shutdowns[other]? = some later) : Stopping next other later := by
  by_cases same : other = shutdown
  · grind
  · have before : world.shutdowns[other]? = some later := by grind
    apply Stopping.of_done (sound.done before (by grind))
    grind

/-- Nothing is done to the listeners, and every task stands as its await says. -/
theorem Sound.kept
    (fields : (next.server, next.httpServer, next.closeTask, next.closing) =
      (world.server, world.httpServer, world.closeTask, world.closing))
    (history : next.history = world.history ++ acts)
    (aside : ∀ act ∈ acts, (∃ client, act = .admitted client ∧ world.closing = false) ∨
      ∃ begun listener, act = .stopped begun listener ∧ listener.start = begun.start)
    (length : world.calls.length ≤ next.calls.length)
    (tasks : next.shutdowns.map Shutdown.expected = world.shutdowns.map Shutdown.expected)
    (calls : ∀ call point, next.calls[call]? = some point → Calling next call point)
    (shutdowns : ∀ shutdown task, next.shutdowns[shutdown]? = some task →
      Stopping next shutdown task) : Sound next := by
  obtain ⟨server, httpServer, closeTask, same⟩ :
      next.server = world.server ∧ next.httpServer = world.httpServer ∧
        next.closeTask = world.closeTask ∧ next.closing = world.closing := by simpa using fields
  have numbers : next.shutdowns.length = world.shutdowns.length := by
    simpa using congrArg List.length tasks
  have asked : ∀ shutdown : Nat, (next.shutdowns[shutdown]?).map Shutdown.expected =
      (world.shutdowns[shutdown]?).map Shutdown.expected := by
    intro shutdown
    rw [← getElem?_map, tasks, getElem?_map]
  refine ⟨⟨?_, ?_, ?_, ?_, ?_, ?_, ?_, ?_, ?_, ?_, ?_⟩, calls, shutdowns⟩
  · rw [same, sound.closing, closeTask]
  · rw [history, Machine.run_append, sound.gated, same]
    apply gate_idle
    intro act member
    obtain ⟨client, rfl, opened⟩ | ⟨begun, listener, rfl, _⟩ := aside act member
    · rw [opened]; rfl
    · cases world.closing <;> rfl
  all_goals grind

/-- A call moves on, and may give its lock back, while nothing else happens. -/
theorem Sound.moved {lock : Option Nat} (mine : lock = world.lock ∨ world.lock = some call)
    (self : Calling ({ world with lock }.callGoto call later) call later) :
    Sound ({ world with lock }.callGoto call later) := by
  refine sound.kept rfl (append_nil _).symm (by simp) (by simp [World.callGoto]) rfl ?_
    sound.shutdowns
  -- The lock stays as it is, or the call gives back its own.
  rcases mine with same | held
  · intro other point found
    by_cases mine : other = call
    · grind
    · have before : world.calls[other]? = some point := by grind
      exact (sound.calls other point before).kept same rfl (fun _ => ⟨rfl, rfl⟩) fun _ member => member
  · exact sound.calling rfl self (.inr held) fun _ _ member => member

/-- A `start()` call finds no listener and no shutdown running, and forgets about the last one. -/
theorem Sound.resets (found : world.calls[call]? = some (.startLocking http))
    (free : world.lock = none) (server : world.server = none) (httpServer : world.httpServer = none)
    (through : ∀ task, world.closeTask = some task → world.shutdownDone task = true) :
    Sound ({ world with
      lock := some call, closeTask := none, closing := false
      history := world.history ++ [Act.reset call] }.callGoto call (.bindingTls http)) := by
  have fresh : world.Unassigned call := sound.calls call _ found
  refine ⟨⟨rfl, ?gated, ?_, ?_, ?_, ?_, ?_, ?_, ?_, ?_, ?_⟩, ?calls, ?shutdowns⟩
  case gated => exact Machine.run_concat_eq_some.mpr ⟨_, sound.gated, rfl⟩
  case calls =>
    refine sound.calling rfl ⟨rfl, server, httpServer, rfl, ?_⟩ (.inl free) ?_
    all_goals grind [World.Unassigned]
  case shutdowns =>
    intro shutdown task here
    refine Stopping.of_done ?_ (by simp [World.callGoto])
    -- A shutdown that is running would be the current one, which is through.
    by_contra running
    have current := (sound.shutdowns shutdown task here).current (by simpa using running)
    grind [World.shutdownDone]
  all_goals grind

/-- A listener is assigned by the call that holds the lock. -/
theorem Sound.assigns {redirect : Bool} {server httpServer : Option Listener}
    (held : world.lock = some call) (none : world.closeTask = none)
    (within : call < world.calls.length)
    (fresh : .assigned { start := call, redirect } ∉ world.history)
    (fields : ∀ listener, server = some listener ∨ httpServer = some listener ↔
      listener ∈ world.listeners ∨ listener = { start := call, redirect })
    (paired : ∀ listener, httpServer = some listener →
      ∃ tls, server = some tls ∧ tls.start = listener.start)
    (bound : next = { world with
      server, httpServer
      history := world.history ++ [Act.assigned { start := call, redirect }] }.callGoto call later)
    (self : Calling next call later) : Sound next := by
  subst bound
  refine ⟨⟨sound.closing, ?gated, sound.known, ?_, paired, ?_, ?_, ?_, ?_, ?_, ?_⟩, ?calls, ?shutdowns⟩
  case gated =>
    refine Machine.run_concat_eq_some.mpr ⟨_, sound.gated, ?_⟩
    cases world.closing <;> rfl
  case calls =>
    refine sound.calling rfl self (.inr held) ?_
    grind
  case shutdowns =>
    -- None is current, so that all of them are through.
    intro shutdown task here
    apply Stopping.of_done (sound.done here (by simp [none]))
    simp [World.callGoto, none]
  all_goals grind

/-- A shutdown is created while none is current, for the listeners there are. -/
theorem Sound.beginning {expected : Option Listener} (none : world.closeTask = none)
    (lock : world.lock = .none ∨ world.lock = some call)
    (current : ∀ server, expected = some server → world.server = some server)
    (self : Calling ((beginShutdown expected world).callGoto call later) call later) :
    Sound ((beginShutdown expected world).callGoto call later) := by
  refine ⟨⟨rfl, ?gated, ?_, ?_, sound.paired, ?_, ?_, ?_, ?_, ?_, ?_⟩, ?calls, ?shutdowns⟩
  case gated => exact Machine.run_concat_eq_some.mpr ⟨_, sound.gated, rfl⟩
  case calls =>
    refine sound.calling rfl self lock ?_
    grind
  case shutdowns =>
    intro shutdown task here
    by_cases old : shutdown < world.shutdowns.length
    · have before : world.shutdowns[shutdown]? = some task := by
        grind
      apply Stopping.of_done (sound.done before (by simp [none]))
      grind
    · -- Past the old shutdowns there is only the new one.
      have created : shutdown = world.shutdowns.length ∧ task = { expected } := by
        grind
      obtain ⟨rfl, rfl⟩ := created
      refine ⟨rfl, current, ?_⟩
      grind
  all_goals grind

/-- A shutdown closes the listeners that it finds, which no other shutdown has closed. -/
theorem Sound.closes {point : ShutdownPoint} (found : world.shutdowns[shutdown]? = some task)
    (created : task.point = .created) (rest : world.Attended clients)
    (goes : point = .waiting world.listeners clients ∨ point = .gathering world.listeners clients) :
    Sound ({ world with
      history := world.history ++ world.listeners.map (Act.closed shutdown) }.shutdownGoto
        shutdown point) := by
  have stopping := sound.shutdowns shutdown task found
  rw [Stopping, created] at stopping
  obtain ⟨current, expected, fresh⟩ := stopping
  refine ⟨⟨sound.closing, ?gated, ?_, ?_, sound.paired, ?_, ?_, ?_, ?_, ?_, ?_⟩, ?calls, ?shutdowns⟩
  case gated =>
    refine (Machine.run_append _ _).trans ?_
    rw [sound.gated]
    apply gate_idle
    cases world.closing <;> simp [gate]
  case calls =>
    intro call later here
    refine (sound.calls call later here).kept rfl rfl (by simp [current]) ?_
    grind
  case shutdowns =>
    refine sound.stopping found current rfl rfl ?_
    rcases goes with rfl | rfl
    all_goals
      refine ⟨current, ?_, rest⟩
      grind
  all_goals grind

/-- The fields are cleared by the shutdown that has closed what they held. -/
theorem Sound.clears {servers : List Listener} (found : world.shutdowns[shutdown]? = some task)
    (closing : task.point = .closing servers clients) :
    Sound ({ world with server := none, httpServer := none }.shutdownGoto shutdown
      (.finished clients)) := by
  have stopping := sound.shutdowns shutdown task found
  rw [Stopping, closing] at stopping
  obtain ⟨current, mine, rest⟩ := stopping
  refine ⟨⟨sound.closing, sound.gated, ?_, ?_, ?_, ?_, ?_, ?_, sound.once, ?_, sound.stopped⟩,
    ?calls, ?shutdowns⟩
  case calls =>
    intro call later here
    exact (sound.calls call later here).kept rfl rfl (by simp [current]) fun _ member => member
  case shutdowns => exact sound.stopping found current rfl rfl fun _ => ⟨rfl, rfl, rest⟩
  all_goals grind

end Sound

end

/-! ## From await to await -/

/-- The world without what the lifecycle does not read. -/
def World.lifecycle (world : World) : World :=
  { world with httpsPorts := [], clients := [], reportClients := [], serving := [], handlers := [] }

section Sound2

variable (sound : Sound world)

include sound

/-- Only the clients and their handlers are changed. -/
theorem Sound.aside (same : next.lifecycle = world.lifecycle)
    (rest : ∀ clients, world.Attended clients → next.Attended clients) : Sound next := by
  simp only [World.lifecycle, World.mk.injEq, true_and] at same
  obtain ⟨server, httpServer, closeTask, closing, lock, calls, shutdowns, history⟩ := same
  refine sound.kept (by simp [*]) (by rw [history, append_nil]) (by simp) (by rw [calls])
    (by rw [shutdowns]) ?_ ?_
  · intro call point found
    rw [calls] at found
    exact (sound.calls call point found).kept lock closeTask (by simp [*]) (by simp [history])
  · intro shutdown task found
    rw [shutdowns] at found
    exact (sound.shutdowns shutdown task found).kept server httpServer closeTask (by simp [history])
      rest

/-- A call is entered at an await that asks for nothing it does not find. -/
theorem Sound.enters
    (self : world.Unassigned world.calls.length → Calling world world.calls.length point) :
    Sound (world.enter point) := by
  refine sound.kept rfl (append_nil _).symm (by simp) (by simp [World.enter]) rfl ?_
    sound.shutdowns
  intro call later found
  have place : world.calls[call]? = some later ∨ call = world.calls.length ∧ later = point := by
    grind [World.enter]
  rcases place with before | ⟨rfl, rfl⟩
  · exact (sound.calls call later before).kept rfl rfl (by simp [World.enter]) fun _ member => member
  · refine (self ?_).kept rfl rfl (by simp [World.enter]) fun _ member => member
    -- Every listener is that of an older call.
    intro listener member same
    have within := (sound.assigned listener member).1
    omega

/-- A client is admitted while no shutdown is current. -/
theorem Sound.enroll (opened : world.closing = false)
    (httpsPort : Option Nat) : Sound (acceptClient.enroll world httpsPort) := by
  have none : world.closeTask = none := by
    have closing := sound.closing
    rw [opened] at closing
    simpa using closing.symm
  refine sound.kept rfl rfl (by simp [opened]) le_rfl rfl ?_ ?_
  · intro call point found
    refine (sound.calls call point found).kept rfl rfl ?_ ?_
    all_goals simp [acceptClient.enroll]
  · intro shutdown task found
    apply Stopping.of_done (sound.done found (by simp [none]))
    simp [acceptClient.enroll, none]

/-- A `start()` call that fails after binding begins a shutdown with the lock held. -/
theorem Sound.rollBack (raised : Exn) (held : world.lock = some call)
    (none : world.closeTask = none) : Sound (rollBack call raised world) := by
  refine sound.beginning none (.inr held) (by simp) ?_
  exact ⟨held, rfl⟩

omit sound in
/-- The sockets are prepared, or the call rolls back. -/
theorem Sound.saveSyn (sound : Sound (world.callGoto call .servingTls))
    (held : world.lock = some call) (none : world.closeTask = none) :
    Sound (saveSyn call sockets world) := by
  unfold Server.saveSyn
  split
  next raised _ =>
    have rolled := sound.rollBack raised held none
    simpa [Server.rollBack, beginShutdown, World.callGoto] using rolled
  next => exact sound

/-- The TLS listener is assigned first, whatever happens next. -/
theorem Sound.bindTls (found : world.calls[call]? = some (.bindingTls http)) :
    Sound (bindTls call http sockets world) := by
  obtain ⟨held, server, httpServer, none, fresh⟩ := sound.calls call _ found
  have within : call < world.calls.length := (List.getElem?_eq_some_iff.mp found).1
  -- Wherever the call goes on, the listener is assigned.
  have assigned : ∀ {later}, later = .bindingHttp ∨ later = .servingTls → ∀ httpsPorts,
      Sound ({ world with
        server := some { start := call, redirect := false }
        httpsPorts
        history := world.history ++ [Act.assigned { start := call, redirect := false }] }.callGoto
          call later) := by
    intro later goes httpsPorts
    have ported : Sound { world with httpsPorts } := sound.aside rfl fun _ rest => rest
    refine ported.assigns held none within (fun member => fresh _ member rfl) ?_ ?_ rfl ?_
    · simp [mem_listeners, server, httpServer, eq_comm]
    · simp [httpServer]
    · rcases goes with rfl | rfl
      · refine ⟨held, rfl, httpServer, none, ?_⟩
        have other := fun member => fresh { start := call, redirect := true } member rfl
        simpa [World.callGoto] using other
      · exact ⟨held, none⟩
  unfold Server.bindTls
  dsimp only
  split
  next raised _ =>
    -- The ports could not be read.
    have rolled := (assigned (.inl rfl) world.httpsPorts).rollBack raised held none
    simpa [Server.rollBack, beginShutdown, World.callGoto] using rolled
  next httpsPorts _ =>
    split
    · exact assigned (.inl rfl) httpsPorts
    · exact (assigned (.inr rfl) httpsPorts).saveSyn held none

/-- The redirecting listener is assigned by the call that has bound the other one. -/
theorem Sound.bindHttp (found : world.calls[call]? = some .bindingHttp) :
    Sound (bindHttp call sockets world) := by
  obtain ⟨held, server, httpServer, none, fresh⟩ := sound.calls call _ found
  have within : call < world.calls.length := (List.getElem?_eq_some_iff.mp found).1
  refine Sound.saveSyn (sound.assigns held none within fresh ?_ ?_ rfl ⟨held, none⟩) held none
  · simp [mem_listeners, server, httpServer, eq_comm]
  · intro listener redirects
    exact ⟨_, server, by rw [← Option.some.inj redirects]⟩

/-- The end of `_close` is the end of the call, or the stop of what it serves. -/
theorem Sound.leaveClose (calling : Calling world call (.closeLocking serving)) :
    Sound (leaveClose call serving result world) := by
  unfold Server.leaveClose
  split
  next => exact sound.moved (.inl rfl) trivial
  next begun =>
    obtain ⟨unassigned, own⟩ := calling
    have stopped : Sound { world with
        history := world.history ++ begun.listeners.map (Act.stopped begun.listener) } := by
      refine sound.kept rfl rfl (by grind [Serving.Own]) le_rfl rfl ?_ ?_
      · intro other point found
        exact (sound.calls other point found).kept rfl rfl (fun _ => ⟨rfl, rfl⟩) (by grind)
      · intro shutdown task found
        exact (sound.shutdowns shutdown task found).kept rfl rfl rfl (by grind) fun _ rest => rest
    refine stopped.moved (.inl rfl) ⟨?_, own begun rfl⟩
    grind [World.Unassigned, World.callGoto]

/-- `_close` leaves a later listener alone, and else begins a shutdown or joins the one there is. -/
theorem Sound.enterClose (found : world.calls[call]? = some (.closeLocking serving))
    (free : world.lock = none) : Sound (enterClose call serving world) := by
  have calling := sound.calls call _ found
  unfold Server.enterClose
  dsimp only
  split
  · exact sound.leaveClose calling
  next current =>
    split
    next first =>
      obtain ⟨unassigned, own⟩ := calling
      refine sound.beginning first (.inl free) (by grind) ⟨?_, own⟩
      grind [World.Unassigned, World.callGoto, beginShutdown]
    next task joined => exact sound.moved (.inl rfl) calling

/-- `serve_forever()` begins on the listeners of one `start()`. -/
theorem Sound.serveForever : Sound (serveForever world) := by
  unfold Server.serveForever
  split
  · exact sound.enters fun _ => trivial
  next server started =>
    split
    · exact sound.enters fun _ => trivial
    · have noted : Sound { world with serving := world.serving ++ [server] } :=
        sound.aside rfl fun _ rest => rest
      refine noted.enters fun unassigned => ⟨unassigned, ?_⟩
      have paired := sound.paired
      grind [Serving.Own]

/-- A lifecycle call goes from await to await. -/
theorem Sound.resumeCall (found : world.calls[call]? = some point)
    (resumed : resumeCall call sockets world point result = some next) : Sound next := by
  have calling := sound.calls call point found
  -- One goal for each await and each way it ends, in the order of the definition.
  unfold Server.resumeCall at resumed
  split at resumed <;> try split at resumed
  all_goals cases resumed
  next free =>
    unfold enterStart
    dsimp only
    split
    · exact sound.moved (.inl free.symm) trivial
    next refused =>
      push Not at refused
      obtain ⟨server, httpServer, through⟩ := refused
      refine sound.resets found free server httpServer ?_
      intro task current
      exact Bool.eq_true_of_not_eq_false (through task current)
  next => exact sound.moved (.inl rfl) trivial
  next => exact sound.bindTls found
  next => exact sound.moved (.inr calling.1) trivial
  next => exact sound.bindHttp found
  next raised => exact sound.rollBack raised calling.1 calling.2.2.2.1
  next => exact sound.moved (.inl rfl) calling
  next => exact sound.moved (.inr calling.1) trivial
  next raised => exact sound.rollBack raised calling.1 calling.2
  next => exact sound.moved (.inr calling.1) trivial
  next raised => exact sound.rollBack raised calling.1 calling.2
  next => exact sound.moved (.inr calling.1) trivial
  next => exact sound.moved (.inr calling.1) trivial
  next free => exact sound.enterClose found free
  next => exact sound.leaveClose calling
  next => exact sound.leaveClose calling
  next => exact sound.leaveClose calling
  next =>
    refine sound.moved (.inl rfl) ⟨calling.1, ?_⟩
    intro begun same
    rw [← Option.some.inj same]
    exact calling.2
  next serving outcome =>
    have noted : Sound { world with serving := world.serving.erase serving.listener } :=
      sound.aside rfl fun _ rest => rest
    exact noted.moved (.inl rfl) trivial
  next => exact sound.moved (.inl rfl) trivial

omit sound in
/-- A client that is no longer listed has ended. -/
theorem Admitted.attended (admitted : Admitted world) : world.Attended world.clients := by
  refine ⟨admitted.clientsKnown, ?_⟩
  intro client within
  have found : world.handlers[client]? = some world.handlers[client] :=
    getElem?_eq_getElem within
  obtain ⟨slot, ran, standing, held, listed, closed⟩ := admitted.handled client _ found
  by_cases gone : slot = .gone
  · -- The callback has run, and it runs after the end of the task.
    right
    rw [World.handlerDone, found]
    exact standing.done.2 (.inr gone)
  · exact .inl (listed.mpr gone)

/-- A shutdown goes from await to await. -/
theorem Sound.resumeShutdown (admitted : Admitted world)
    (found : world.shutdowns[shutdown]? = some task)
    (resumed : resumeShutdown shutdown world task.point = some next) : Sound next := by
  have stopping := sound.shutdowns shutdown task found
  -- A shutdown that only waits changes nothing but its own await.
  have waits : ∀ {world point}, Sound world → world.shutdowns[shutdown]? = some task →
      world.closeTask = some shutdown → Stopping world shutdown { task with point } →
      Sound (world.shutdownGoto shutdown point) := by
    intro world point sound found current self
    refine sound.kept rfl (append_nil _).symm (by simp) le_rfl ?_ sound.calls
      (sound.stopping found current rfl rfl self)
    apply ext_getElem?
    grind [World.shutdownGoto]
  cases await : task.point <;> rw [await] at resumed <;> rw [Stopping, await] at stopping
  case created =>
    rw [Server.resumeShutdown] at resumed
    split at resumed
    all_goals cases resumed
    · exact sound.closes found await admitted.attended (.inl rfl)
    · exact sound.closes found await admitted.attended (.inr rfl)
  case waiting servers clients =>
    cases resumed
    -- The abort of a transport ends no handler and revives none.
    have kept : ∀ rest, world.Attended rest → (abortClients clients world).Attended rest := by
      grind [World.Attended, abortClients, World.handlerDone, Handler.done]
    exact waits (sound.aside rfl kept) found stopping.1
      ⟨stopping.1, stopping.2.1, kept _ stopping.2.2⟩
  case gathering servers clients =>
    rw [Server.resumeShutdown] at resumed
    split at resumed
    next done =>
      cases resumed
      refine waits sound found stopping.1 ⟨stopping.1, stopping.2.1, by simp, ?_⟩
      -- With these clients, all of them are through.
      intro client within
      exact .inr ((stopping.2.2.2 client within).elim (all_eq_true.mp done client) id)
    next => cases resumed
  case closing servers clients =>
    cases resumed
    exact sound.clears found await
  case finished clients => cases resumed

/-- Every event keeps the books in order. -/
theorem Sound.step {event : Event} (admitted : Admitted world)
    (stepped : step world event = some next) : Sound next := by
  cases event with
  | accept redirect family =>
    cases stepped
    unfold acceptClient
    split
    · exact sound
    next opened =>
      have admits := sound.enroll (by simpa using opened)
      split
      · exact sound
      · split
        · exact sound
        · exact admits _
        · exact admits _
  | handler client result answers =>
    obtain ⟨handler, found, resumed⟩ := Option.bind_eq_some_iff.mp stepped
    -- The handler that runs is not through, and the others are left alone.
    have running : handler.done = false := by
      unfold Handler.done
      split
      next outcome await => rw [await] at resumed; cases resumed
      next => rfl
    obtain ⟨change, reportClients, rfl⟩ := resumeHandler_eq resumed
    refine sound.aside rfl ?_
    grind [World.Attended, World.handlerDone]
  | callback client =>
    obtain ⟨handler, found, called⟩ := Option.bind_eq_some_iff.mp stepped
    split at called
    next =>
      cases called
      refine sound.aside rfl ?_
      grind [World.Attended, World.handlerDone, clientDone, World.note, World.closeWriter,
        Handler.done]
    next => cases called
  | start http =>
    cases stepped
    exact sound.enters fun unassigned => unassigned
  | close =>
    cases stepped
    exact sound.enters fun unassigned => ⟨unassigned, by simp⟩
  | serveForever =>
    cases stepped
    exact sound.serveForever
  | call call result sockets =>
    obtain ⟨point, found, resumed⟩ := Option.bind_eq_some_iff.mp stepped
    exact sound.resumeCall found resumed
  | shutdown shutdown =>
    obtain ⟨task, found, resumed⟩ := Option.bind_eq_some_iff.mp stepped
    exact sound.resumeShutdown admitted found resumed

end Sound2

/-- The books are in order in every state of every run. -/
theorem sound_of_reachable (reached : machine.Reachable world) : Sound world := by
  have both : Admitted world ∧ Sound world := by
    apply reached.invariant
    · refine ⟨admitted_of_reachable (.refl _ _), ⟨rfl, rfl, ?_, ?_, ?_, ?_, ?_, ?_, ?_, ?_, ?_⟩, ?_, ?_⟩
      -- A new server has no listener, no call and no shutdown.
      all_goals simp [machine, mem_listeners]
    · intro state event next held stepped
      exact ⟨held.1.step stepped, held.2.step held.1 stepped⟩
  exact both.2

end Server

end SolveTls
