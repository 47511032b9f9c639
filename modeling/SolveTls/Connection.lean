import SolveTls.Http2.SessionRuns

/-! The HTTP/2 side of one client connection, after the TLS handshake. -/

namespace SolveTls

open Fallible

/-- The connection object: its transport, until a session takes it over. -/
structure ClientConnection (κ δ : Type) where
  transport : Transport := {}
  session : Option (HTTP2Session κ δ) := none

/-- A method of the connection. -/
abbrev ClientM (κ δ α : Type) := Fallible (ClientConnection κ δ) Exn α

namespace ClientConnection

variable {κ δ α : Type} (packages : Packages κ δ)

/-- Accept a preface split across any number of reads. -/
def prefaceLoop : List (Except Exn Bytes) → (buffered : Bytes) →
    Except Exn Bytes × List (Except Exn Bytes)
  | reads, buffered =>
    if buffered.length < http2Preface.length then
      match reads with
      | [] => (.error (.connection "Connection closed"), [])
      | .error raised :: rest => (.error raised, rest)
      | .ok data :: rest =>
        if ¬ (buffered ++ data).take http2Preface.length <+: http2Preface then
          -- The session is initialized so that it reports PROTOCOL_ERROR.
          (.ok (buffered ++ data), rest)
        else prefaceLoop rest (buffered ++ data)
    else (.ok buffered, reads)

def readProtocolPreface : ClientM κ δ Bytes := fun self =>
  match prefaceLoop self.transport.reads [] with
  | (outcome, reads) => (outcome, { self with transport := { self.transport with reads } })

/-- Run a method of the session, which must exist. -/
def onSession (method : SessionM κ δ α) : ClientM κ δ α := fun self =>
  match self.session with
  | none => (.error (.other "HTTP/2 handshake must run first"), self)
  | some session =>
    match method session with
    | (outcome, session) => (outcome, { self with session := some session })

/-- The branch of a connection that negotiated `h2`. -/
def handleHttp : ClientM κ δ Unit := do
  let incomingData ← readProtocolPreface
  modify fun self => { self with session := some (HTTP2Session.create packages self.transport) }
  onSession (HTTP2Session.initializeSession packages incomingData)
  onSession (HTTP2Session.receiveRequest packages)

def sendResponse (content : Bytes) (headers : Dict Bytes Bytes) (statusCode : Nat) :
    ClientM κ δ Unit :=
  onSession (HTTP2Session.sendResponse packages content headers statusCode)

/-- Close HTTP/2; an error of that is logged and only a cancellation goes on. -/
def close (http2ErrorCode : Nat) : ClientM κ δ Unit := do
  let self ← get
  runWhen (self.session.isSome = true)
    (tryCatch (onSession (HTTP2Session.close packages http2ErrorCode)) fun raised =>
      raiseIf (raised = .cancelled) raised)

end ClientConnection

namespace HTTP2Session

/-- Feed a stream in chunks: the preface, then everything else to the session it opens. -/
def feedStream {κ δ : Type} (packages : Packages κ δ) (transport : Transport) (chunks : List Bytes) :
    Except Exn Unit × Option (HTTP2Session κ δ) :=
  match ClientConnection.prefaceLoop (chunks.map .ok) [] with
  | (.error raised, _) => (.error raised, none)
  | (.ok incomingData, rest) =>
    match feed packages incomingData (rest.filterMap Except.toOption) (create packages transport) with
    | (outcome, session) => (outcome, some session)

end HTTP2Session

end SolveTls
