import SolveTls.Server.World

/-! One client of the server: from its acceptance to the callback of its finished task. -/

namespace SolveTls

namespace Server

/-- Suspend a handler at its next await, or end it. -/
def World.goto (client : Nat) (point : HandlerPoint) (world : World) : World :=
  { world with handlers := world.handlers.modify client fun handler => { handler with point } }

/-- Record what was done about a client's slots. -/
def World.note (client : Nat) (stage : Stage) (world : World) : World :=
  { world with
    handlers := world.handlers.modify client fun handler =>
      { handler with trace := handler.trace ++ [stage] } }

/-- `writer.close()`, after which the writer is closing. -/
def World.closeWriter (client : Nat) (world : World) : World :=
  { world with
    handlers := world.handlers.modify client fun handler => { handler with writerClosing := true } }

/-- The handler of a new connection is created unless the server is closing or full. -/
def acceptClient (redirect : Bool) (family : Nat) (world : World) : World :=
  if world.closing then world
  else if world.clients.length ≥ maxClients then world
  else
    match redirect, world.httpsPorts with
    -- The default of the lookup is taken first, and there is none.
    | true, [] => world
    | true, first :: ports =>
      enroll (some (((first :: ports).lookup family).getD first.2))
    | false, _ => enroll none
where
  enroll (httpsPort : Option Nat) : World :=
    { world with
      handlers := world.handlers ++ [{ point := .created httpsPort }]
      clients := world.clients ++ [world.handlers.length]
      history := world.history ++ [.admitted world.handlers.length] }

/-- The callback of a finished task. -/
def clientDone (client : Nat) (world : World) : World :=
  let world := { world with clients := world.clients.erase client }
  (world.note client .removed).closeWriter client

/-- What the code between two awaits of a handler gets from the functions that it calls. -/
structure Answers where
  /-- `ClientConnection(...)` and the address of the peer. -/
  construct : Except Exn Unit := .ok ()
  /-- `_response_policy(client)` -/
  policy : Except Exn (Nat × Option String) := .ok (200, none)
  /-- `build_report(client)` and `json.dumps(report)`, and the same for the report of an error. -/
  build : Except Exn Unit := .ok ()
  rebuild : Except Exn Unit := .ok ()

/-- The end of `_handle_client`: the report slot is given back. -/
def finishClient (client : Nat) (outcome : Except Exn Unit) (world : World) : World :=
  if client ∈ world.reportClients then
    let world := { world with reportClients := world.reportClients.erase client }
    (world.note client .released).goto client (.finished outcome)
  else world.goto client (.finished outcome)

/-- `_send_report` up to its await; an error goes to the handler around the call. -/
def sendReport (client status : Nat) (error : Option String) (recovering : Bool)
    (build : Except Exn Unit) (except : Exn → World → World) (world : World) : World :=
  if client ∉ world.reportClients then
    if world.reportClients.length ≥ maxReports then
      (world.note client .refused).goto client (.replyingBusy recovering)
    else
      let world := { world with reportClients := world.reportClients ++ [client] }
      buildReport (world.note client .reserved)
  else buildReport world
where
  buildReport (world : World) : World :=
    let world := world.note client .built
    match build with
    | .error raised => except raised world
    | .ok () => world.goto client (.replying { status, error } recovering)

/-- The error code to close HTTP/2 with after an exception that is not raised again. -/
def http2ErrorCode : Exn → Nat
  | .protocolError _ code => code
  | .h2Error _ => ErrorCode.protocolError.code
  | .frameParsing error => error.code
  | .ssl _ | .connection _ | .timeout => ErrorCode.noError.code
  | .value _ => ErrorCode.protocolError.code
  | .hpack _ | .oversizedHeaderList _ => ErrorCode.compressionError.code
  | .other _ => ErrorCode.internalError.code
  | .http1 _ _ | .cancelled => ErrorCode.noError.code

/-- An exception inside the handler of an `HTTP1Error`. -/
def leaveRecovery (client : Nat) (raised : Exn) (world : World) : World :=
  match raised with
  | .connection _ | .timeout | .ssl _ =>
    world.goto client (.closing ErrorCode.noError.code none none)
  | raised => world.goto client (.closing ErrorCode.noError.code none (some raised))

/-- An exception inside the `try` of `_serve_client`. -/
def recoverFrom (client : Nat) (rebuild : Except Exn Unit) (raised : Exn) (world : World) : World :=
  match raised with
  | .http1 message statusCode =>
    sendReport client statusCode (some message) true rebuild (leaveRecovery client) world
  | .cancelled => world.goto client (.closing ErrorCode.noError.code none (some .cancelled))
  | raised => world.goto client (.closing (http2ErrorCode raised) none none)

/-- The request is in, and the policy decides on the response. -/
def respond (client : Nat) (answers : Answers) (world : World) : World :=
  match answers.policy with
  | .error raised => recoverFrom client answers.rebuild raised world
  | .ok (status, error) =>
    if status = 204 then world.goto client .replyingEmpty
    else
      sendReport client status error false answers.build (recoverFrom client answers.rebuild) world

/-- A handler runs from the await it is at to the next one, after the await has ended so. -/
def resumeHandler (client : Nat) (answers : Answers) (world : World) :
    HandlerPoint → Except Exn Unit → Option World
  | .created httpsPort, .ok () =>
    match httpsPort, answers.construct with
    | some httpsPort, _ => some (world.goto client (.redirecting httpsPort))
    -- Nothing is done for a client whose connection object cannot be made.
    | none, .error raised => some (world.goto client (.finished (.error raised)))
    | none, .ok () => some (world.goto client .handshaking)
  -- A task that is cancelled before it has run never runs.
  | .created _, .error .cancelled => some (world.goto client (.finished (.error .cancelled)))
  | .created _, .error _ => none
  | .handshaking, .ok () => some (world.goto client .requesting)
  | .handshaking, .error raised => some (recoverFrom client answers.rebuild raised world)
  | .requesting, .ok () => some (respond client answers world)
  | .requesting, .error raised => some (recoverFrom client answers.rebuild raised world)
  -- No response raises an `HTTP1Error`: only the reading of a request head does.
  | .replyingEmpty, .error (.http1 _ _) => none
  | .replyingBusy _, .error (.http1 _ _) => none
  | .replying _ _, .error (.http1 _ _) => none
  | .replyingEmpty, .ok () =>
    some (world.goto client (.closing ErrorCode.noError.code none none))
  | .replyingEmpty, .error raised => some (recoverFrom client answers.rebuild raised world)
  | .replyingBusy _, .ok () =>
    some (world.goto client (.closing ErrorCode.noError.code none none))
  | .replyingBusy false, .error raised => some (recoverFrom client answers.rebuild raised world)
  | .replyingBusy true, .error raised => some (leaveRecovery client raised world)
  | .replying report _, .ok () =>
    some (world.goto client (.closing ErrorCode.noError.code (some report) none))
  | .replying _ false, .error raised => some (recoverFrom client answers.rebuild raised world)
  | .replying _ true, .error raised => some (leaveRecovery client raised world)
  | .closing _ reportToSave raised, result =>
    -- However `client.close()` ends, it has closed the writer.
    let world := world.closeWriter client
    match result, raised, reportToSave with
    | .error raised, _, _ => some (finishClient client (.error raised) world)
    | .ok (), some raised, _ => some (finishClient client (.error raised) world)
    | .ok (), none, some report => some ((world.note client .saving).goto client (.saving report))
    | .ok (), none, none => some (finishClient client (.ok ()) world)
  | .saving _, result => some (finishClient client result (world.note client .saved))
  | .redirecting _, result =>
    let outcome := match result with
      | .error (.connection _) | .error (.ssl _) | .error .timeout => .ok ()
      | result => result
    some ((world.closeWriter client).goto client (.redirectClosing outcome))
  | .redirectClosing _, .error .cancelled =>
    some (world.goto client (.finished (.error .cancelled)))
  | .redirectClosing outcome, _ => some (world.goto client (.finished outcome))
  | .finished _, _ => none

end Server

end SolveTls
