import SolveTls.Base.Machine
import SolveTls.Http2.H2

/-! The server object together with every task that works on it. -/

namespace SolveTls

def maxClients : Nat := 32
def maxReports : Nat := 4

namespace Server

/-- A listener: the `start()` call that bound it, and whether it redirects plain HTTP. -/
structure Listener where
  start : Nat
  redirect : Bool
  deriving DecidableEq, Repr

/-- What the server adds to a report before it is sent. -/
structure Report where
  status : Nat
  error : Option String
  deriving DecidableEq, Repr

/-- The await at which a client's handler is suspended. -/
inductive HandlerPoint where
  /-- The task has not run yet; a redirecting one knows the port to redirect to. -/
  | created (httpsPort : Option Nat)
  /-- `await client.do_tls_handshake()` -/
  | handshaking
  /-- `await client.handle_http()` -/
  | requesting
  /-- The empty response to a favicon request. -/
  | replyingEmpty
  /-- The 503 response of `_send_report`, perhaps called from the `HTTP1Error` handler. -/
  | replyingBusy (recovering : Bool)
  /-- `await _send_json(...)` -/
  | replying (report : Report) (recovering : Bool)
  /-- `await client.close(...)`, with the exception that is raised again after it. -/
  | closing (http2ErrorCode : Nat) (reportToSave : Option Report) (raised : Option Exn)
  /-- `await save_fingerprint(report_to_save)` -/
  | saving (report : Report)
  /-- The body of `handle_redirect`. -/
  | redirecting (httpsPort : Nat)
  /-- `await writer.wait_closed()` of `handle_redirect`. -/
  | redirectClosing (outcome : Except Exn Unit)
  | finished (outcome : Except Exn Unit)
  deriving Repr

/-- What was done about the slots of a client, in this order. -/
inductive Stage where
  /-- No report slot was free. -/
  | refused
  | reserved
  /-- `build_report(client)` is called. -/
  | built
  /-- `save_fingerprint(report_to_save)` is called. -/
  | saving
  | saved
  /-- The report slot is given back. -/
  | released
  /-- The done callback takes the task out of `_clients`. -/
  | removed
  deriving DecidableEq, Repr

/-- A client's task with its writer. -/
structure Handler where
  point : HandlerPoint
  writerClosing : Bool := false
  trace : List Stage := []
  deriving Repr

/-- The task has ended. -/
def Handler.done (handler : Handler) : Bool :=
  match handler.point with
  | .finished _ => true
  | _ => false

/-- A `serve_forever()` call: the TLS listener it began on, the listeners it has tasks for,
and how `await shield(serving)` ended. -/
structure Serving where
  listener : Listener
  listeners : List Listener
  outcome : Except Exn Unit := .ok ()
  deriving Repr

/-- The await at which a lifecycle call is suspended. -/
inductive CallPoint where
  /-- `start()` waits for the lock. -/
  | startLocking (http : Bool)
  | bindingTls (http : Bool)
  | bindingHttp
  /-- `await self._server.start_serving()` -/
  | servingTls
  | servingHttp
  /-- `await shield(self._close_task)` of a failed `start()`. -/
  | rollingBack (shutdown : Nat) (raised : Exn)
  /-- `_close()` waits for the lock, for `close()` or for a `serve_forever()`. -/
  | closeLocking (serving : Option Serving)
  /-- `await shield(closing)` -/
  | joining (shutdown : Nat) (serving : Option Serving)
  /-- `await shield(serving)` -/
  | serving (serving : Serving)
  /-- `await gather(serving, *tasks, return_exceptions=True)` -/
  | gathering (serving : Serving) (outcome : Except Exn Unit)
  | ended (outcome : Except Exn Unit)
  deriving Repr

/-- The await at which a `_shutdown()` task is suspended. -/
inductive ShutdownPoint where
  | created
  /-- `await wait(clients, timeout=SHUTDOWN_TIMEOUT)` -/
  | waiting (servers : List Listener) (clients : List Nat)
  /-- `await gather(*clients, return_exceptions=True)` -/
  | gathering (servers : List Listener) (clients : List Nat)
  /-- `await gather(*(server.wait_closed() for server in servers))` -/
  | closing (servers : List Listener) (clients : List Nat)
  | finished (clients : List Nat)
  deriving DecidableEq, Repr

/-- A `_shutdown()` task, and the listener that `_close` was asked to close. -/
structure Shutdown where
  point : ShutdownPoint := .created
  expected : Option Listener := none
  deriving DecidableEq, Repr

/-- The task has ended. -/
def Shutdown.done (shutdown : Shutdown) : Bool :=
  match shutdown.point with
  | .finished _ => true
  | _ => false

/-- What has happened to the listeners. -/
inductive Act where
  /-- A `start()` call has reset the state. -/
  | reset (start : Nat)
  /-- A bound listener is assigned to its field. -/
  | assigned (listener : Listener)
  /-- A shutdown is created. -/
  | shuttingDown (shutdown : Nat)
  /-- A shutdown has called `server.close()`. -/
  | closed (shutdown : Nat) (listener : Listener)
  /-- A `serve_forever()` call cancels its own task for a listener, which closes it. -/
  | stopped (begun listener : Listener)
  /-- A client handler is created. -/
  | admitted (client : Nat)
  deriving DecidableEq, Repr

/-- The attributes of the server object, its tasks, and what happened to the listeners.

A client's task, its writer and its connection go by the number of the handler. -/
structure World where
  server : Option Listener := none
  httpServer : Option Listener := none
  /-- The port of each socket family. -/
  httpsPorts : List (Nat × Nat) := []
  clients : List Nat := []
  reportClients : List Nat := []
  serving : List Listener := []
  closeTask : Option Nat := none
  closing : Bool := false
  /-- The call that holds `_lifecycle_lock`. -/
  lock : Option Nat := none
  calls : List CallPoint := []
  shutdowns : List Shutdown := []
  handlers : List Handler := []
  history : List Act := []
  deriving Repr

end Server

end SolveTls
