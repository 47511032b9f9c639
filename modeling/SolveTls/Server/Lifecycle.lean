import SolveTls.Server.World

/-! Starting, serving and closing the listeners. -/

namespace SolveTls

namespace Server

/-- Suspend a call at its next await, or end it. -/
def World.callGoto (call : Nat) (point : CallPoint) (world : World) : World :=
  { world with calls := world.calls.set call point }

/-- A call enters at its first await, or has ended already. -/
def World.enter (point : CallPoint) (world : World) : World :=
  { world with calls := world.calls ++ [point] }

/-- The task has run to its end. -/
def World.shutdownDone (world : World) (shutdown : Nat) : Bool :=
  (world.shutdowns[shutdown]?.map Shutdown.done).getD false

/-- The client's task has run to its end. -/
def World.handlerDone (world : World) (client : Nat) : Bool :=
  (world.handlers[client]?.map Handler.done).getD false

/-- What a `start()` call gets from the sockets that it has bound. -/
structure Sockets where
  ports : Except Exn (List (Nat × Nat)) := .ok []
  /-- `enable_save_syn(sock)` for each of them. -/
  saveSyn : Except Exn Unit := .ok ()

/-- A shutdown is created, and no client is accepted from then on. -/
def beginShutdown (expected : Option Listener) (world : World) : World :=
  { world with
    closing := true
    closeTask := some world.shutdowns.length
    shutdowns := world.shutdowns ++ [{ expected }]
    history := world.history ++ [.shuttingDown world.shutdowns.length] }

/-- The call ends and gives the lock back. -/
def endStart (call : Nat) (outcome : Except Exn Unit) (world : World) : World :=
  { world with lock := none }.callGoto call (.ended outcome)

/-- A failed `start()` waits for a shutdown of its own, with the lock held. -/
def rollBack (call : Nat) (raised : Exn) (world : World) : World :=
  (beginShutdown none world).callGoto call (.rollingBack world.shutdowns.length raised)

/-- `_start` once the lock is acquired, up to its first await. -/
def enterStart (call : Nat) (http : Bool) (world : World) : World :=
  let world := { world with lock := some call }
  if world.server ≠ none ∨ world.httpServer ≠ none ∨
      (∃ task ∈ world.closeTask, world.shutdownDone task = false) then
    endStart call (.error (.other "Server is already started or still closing")) world
  else
    { world with
      closeTask := none
      closing := false
      history := world.history ++ [Act.reset call] }.callGoto call (.bindingTls http)

/-- `enable_save_syn` is called on the sockets before they start serving. -/
def saveSyn (call : Nat) (sockets : Sockets) (world : World) : World :=
  match sockets.saveSyn with
  | .error raised => rollBack call raised world
  | .ok () => world.callGoto call .servingTls

/-- The TLS listener is bound. -/
def bindTls (call : Nat) (http : Bool) (sockets : Sockets) (world : World) : World :=
  let listener : Listener := { start := call, redirect := false }
  let world := { world with
    server := some listener
    history := world.history ++ [.assigned listener] }
  match sockets.ports with
  | .error raised => rollBack call raised world
  | .ok httpsPorts =>
    let world := { world with httpsPorts }
    if http then world.callGoto call .bindingHttp else saveSyn call sockets world

/-- The redirecting listener is bound. -/
def bindHttp (call : Nat) (sockets : Sockets) (world : World) : World :=
  let listener : Listener := { start := call, redirect := true }
  saveSyn call sockets
    { world with
      httpServer := some listener
      history := world.history ++ [.assigned listener] }

/-- `_close` has returned or raised. -/
def leaveClose (call : Nat) (serving : Option Serving) (result : Except Exn Unit) (world : World) :
    World :=
  match serving with
  | none => world.callGoto call (.ended result)
  | some serving =>
    -- An error of `_close` replaces that of the wait.
    let outcome := match result with
      | .ok () => serving.outcome
      | .error raised => .error raised
    { world with
      history := world.history ++ serving.listeners.map (Act.stopped serving.listener) }.callGoto call
      (.gathering serving outcome)

/-- `_close` once the lock is acquired; it is released before the next await. -/
def enterClose (call : Nat) (serving : Option Serving) (world : World) : World :=
  let expected := serving.map Serving.listener
  if expected ≠ none ∧ world.server ≠ expected then leaveClose call serving (.ok ()) world
  else
    match world.closeTask with
    | none => (beginShutdown expected world).callGoto call (.joining world.shutdowns.length serving)
    | some task => world.callGoto call (.joining task serving)

/-- `serve_forever()` up to its first await. -/
def serveForever (world : World) : World :=
  match world.server with
  | none => world.enter (.ended (.error (.other "start() must run first")))
  | some server =>
    if server ∈ world.serving then
      world.enter (.ended (.error (.other "serve_forever() is already running")))
    else
      { world with serving := world.serving ++ [server] }.enter
        (.serving { listener := server, listeners := server :: world.httpServer.toList })

/-- A call runs from the await it is at to the next one, after the await has ended so. -/
def resumeCall (call : Nat) (sockets : Sockets) (world : World) :
    CallPoint → Except Exn Unit → Option World
  | .startLocking http, .ok () =>
    if world.lock = none then some (enterStart call http world) else none
  | .startLocking _, .error .cancelled => some (world.callGoto call (.ended (.error .cancelled)))
  | .startLocking _, .error _ => none
  | .bindingTls http, .ok () => some (bindTls call http sockets world)
  -- Nothing is bound yet, so there is nothing to roll back.
  | .bindingTls _, .error raised => some (endStart call (.error raised) world)
  | .bindingHttp, .ok () => some (bindHttp call sockets world)
  | .bindingHttp, .error raised => some (rollBack call raised world)
  | .servingTls, .ok () =>
    if world.httpServer ≠ none then some (world.callGoto call .servingHttp)
    else some (endStart call (.ok ()) world)
  | .servingTls, .error raised => some (rollBack call raised world)
  | .servingHttp, .ok () => some (endStart call (.ok ()) world)
  | .servingHttp, .error raised => some (rollBack call raised world)
  | .rollingBack shutdown raised, .ok () =>
    if world.shutdownDone shutdown then some (endStart call (.error raised) world) else none
  | .rollingBack _ _, .error .cancelled => some (endStart call (.error .cancelled) world)
  | .rollingBack _ _, .error _ => none
  | .closeLocking serving, .ok () =>
    if world.lock = none then some (enterClose call serving world) else none
  | .closeLocking serving, .error .cancelled =>
    some (leaveClose call serving (.error .cancelled) world)
  | .closeLocking _, .error _ => none
  | .joining shutdown serving, .ok () =>
    if world.shutdownDone shutdown then some (leaveClose call serving (.ok ()) world) else none
  | .joining _ serving, .error .cancelled =>
    some (leaveClose call serving (.error .cancelled) world)
  | .joining _ _, .error _ => none
  | .serving serving, result =>
    some (world.callGoto call (.closeLocking (some { serving with outcome := result })))
  | .gathering serving outcome, .ok () =>
    some ({ world with serving := world.serving.erase serving.listener }.callGoto call
      (.ended outcome))
  | .gathering _ _, .error .cancelled => some (world.callGoto call (.ended (.error .cancelled)))
  | .gathering _ _, .error _ => none
  | .ended _, _ => none

/-- Suspend a shutdown at its next await, or end it. -/
def World.shutdownGoto (shutdown : Nat) (point : ShutdownPoint) (world : World) : World :=
  { world with shutdowns := world.shutdowns.modify shutdown fun task => { task with point } }

/-- The transports of the clients that are still being served are aborted and their tasks cancelled;
any task may be cancelled at any of its awaits, so that the cancellation is no part of the state. -/
def abortClients (clients : List Nat) (world : World) : World :=
  { world with
    handlers := world.handlers.mapIdx fun client handler =>
      if client ∈ clients ∧ handler.done = false then { handler with writerClosing := true }
      else handler }

/-- A shutdown runs from the await it is at to the next one, where that await can end. -/
def resumeShutdown (shutdown : Nat) (world : World) : ShutdownPoint → Option World
  | .created =>
    let servers := world.server.toList ++ world.httpServer.toList
    let clients := world.clients
    let world := { world with history := world.history ++ servers.map (Act.closed shutdown) }
    if clients ≠ [] then some (world.shutdownGoto shutdown (.waiting servers clients))
    else some (world.shutdownGoto shutdown (.gathering servers clients))
  -- The wait ends with the last client or at its deadline.
  | .waiting servers clients =>
    some ((abortClients clients world).shutdownGoto shutdown (.gathering servers clients))
  | .gathering servers clients =>
    if clients.all world.handlerDone then
      some (world.shutdownGoto shutdown (.closing servers clients))
    else none
  | .closing _ clients =>
    some ({ world with server := none, httpServer := none }.shutdownGoto shutdown
      (.finished clients))
  | .finished _ => none

end Server

end SolveTls
