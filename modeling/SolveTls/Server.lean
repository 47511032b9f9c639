import SolveTls.Connection

/-! How the server takes one HTTP/2 client from its handshake to the end of its connection. -/

namespace SolveTls

open Fallible

/-- What is sent back for a request. -/
structure Response where
  content : Bytes
  headers : Dict Bytes Bytes
  statusCode : Nat
  deriving DecidableEq, Repr

/-- What the server decides outside the HTTP/2 code, each time with the error it may raise. -/
structure Policy where
  handshake : Except Exn Unit
  /-- The response to a captured request: a report, or an empty one. -/
  respond : HTTP2Capture → Except Exn Response
  /-- The report sent after an HTTP/1.1 error. -/
  apologize : (message : String) → (statusCode : Nat) → Except Exn Response

namespace SolveTLS

variable {κ δ : Type} (packages : Packages κ δ) (policy : Policy)

/-- Send what the policy decided on. -/
def answer (decision : Except Exn Response) : ClientM κ δ Unit := do
  let response ← fromExcept decision
  ClientConnection.sendResponse packages response.content response.headers response.statusCode

/-- The request is received and answered. -/
def attempt : ClientM κ δ Unit := do
  fromExcept policy.handshake
  ClientConnection.handleHttp packages
  let self ← get
  answer packages (policy.respond ((self.session.map HTTP2Session.capture).getD {}))

/-- The error code to close with after an exception; a cancellation goes on. -/
def recover : Exn → ClientM κ δ Nat
  | .http1 message statusCode => do
    tryCatch (answer packages (policy.apologize message statusCode)) fun
      | .connection _ | .timeout | .ssl _ => pure ()
      | raised => throw raised
    return ErrorCode.noError.code
  | .protocolError _ code => pure code
  | .h2Error _ => pure ErrorCode.protocolError.code
  | .frameParsing error => pure error.code
  | .ssl _ | .connection _ | .timeout => pure ErrorCode.noError.code
  | .value _ => pure ErrorCode.protocolError.code
  | .hpack _ | .oversizedHeaderList _ => pure ErrorCode.compressionError.code
  | .other _ => pure ErrorCode.internalError.code
  | .cancelled => throw .cancelled

/-- Serve one client, and close its connection whatever happened. -/
def serveClient : ClientM κ δ Unit := fun self =>
  match attempt packages policy self with
  | (.ok (), reached) => ClientConnection.close packages ErrorCode.noError.code reached
  | (.error raised, reached) =>
    match recover packages policy raised reached with
    | (.ok code, recovered) => ClientConnection.close packages code recovered
    | (.error raised, recovered) =>
      ensuring (throw raised) (ClientConnection.close packages ErrorCode.noError.code) recovered

end SolveTLS

end SolveTls
