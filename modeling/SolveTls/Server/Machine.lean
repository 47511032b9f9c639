import SolveTls.Server.Handling
import SolveTls.Server.Lifecycle

/-! The server under every interleaving of its tasks at their awaits. -/

namespace SolveTls

namespace Server

/-- What happens next. -/
inductive Event where
  /-- A connection is accepted by one of the listeners. -/
  | accept (redirect : Bool) (family : Nat)
  /-- The await of a client's handler ends, in a cancellation perhaps. -/
  | handler (client : Nat) (result : Except Exn Unit) (answers : Answers)
  /-- The done callback of a client's task runs. -/
  | callback (client : Nat)
  | start (http : Bool)
  | close
  | serveForever
  /-- The await of a lifecycle call ends, in a cancellation perhaps. -/
  | call (call : Nat) (result : Except Exn Unit) (sockets : Sockets)
  /-- The await of a shutdown ends. -/
  | shutdown (shutdown : Nat)

/-- One event, and all the code that runs before the next one can happen. -/
def step (world : World) : Event → Option World
  | .accept redirect family => some (acceptClient redirect family world)
  | .handler client result answers =>
    (world.handlers[client]?).bind fun handler =>
      resumeHandler client answers world handler.point result
  | .callback client =>
    (world.handlers[client]?).bind fun handler =>
      -- A callback is called once, after the end of its task.
      if handler.done = true ∧ .removed ∉ handler.trace then some (clientDone client world) else none
  | .start http => some (world.enter (.startLocking http))
  | .close => some (world.enter (.closeLocking none))
  | .serveForever => some (serveForever world)
  | .call call result sockets =>
    (world.calls[call]?).bind fun point => resumeCall call sockets world point result
  | .shutdown shutdown =>
    (world.shutdowns[shutdown]?).bind fun task => resumeShutdown shutdown world task.point

/-- The server from its construction on. -/
def machine : Machine World Event where
  start := {}
  step := step

end Server

end SolveTls
