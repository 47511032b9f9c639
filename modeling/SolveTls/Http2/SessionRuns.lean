import SolveTls.Http2.FrameFormat
import SolveTls.Http2.Session

/-! Whole runs of a session: the calls made on it, one after another. -/

namespace SolveTls.HTTP2Session

open Fallible

variable {κ δ : Type} (packages : Packages κ δ)

/-- The calls its owner can make on a session. -/
inductive Call where
  | begin (incomingData : Bytes)
  | receive (data : Bytes)
  | receiveRequest
  | sendResponse (content : Bytes) (headers : Dict Bytes Bytes) (statusCode : Nat)
  | close (errorCode : Nat)

def Call.perform : Call → SessionM κ δ Unit
  | .begin incomingData => initializeSession packages incomingData
  | .receive data => HTTP2Session.receive packages data
  | .receiveRequest => HTTP2Session.receiveRequest packages
  | .sendResponse content headers statusCode =>
    HTTP2Session.sendResponse packages content headers statusCode
  | .close errorCode => HTTP2Session.close packages errorCode

/--
The states reached by any calls in any order, and whether one of them has raised.

Calls may go on after an error, as a session is still closed after it failed.
-/
inductive Run : (raised : Bool) → HTTP2Session κ δ → Prop where
  | created (transport : Transport) : Run false (create packages transport)
  | returned {raised : Bool} {before after : HTTP2Session κ δ} (call : Call) (run : Run raised before)
    (ran : call.perform packages before = (.ok (), after)) : Run raised after
  | failed {raised : Bool} {before after : HTTP2Session κ δ} {error : Exn} (call : Call)
    (run : Run raised before) (ran : call.perform packages before = (.error error, after)) :
    Run true after

/-! ### Between the calls, and within them -/

/-- The library calls other than those that receive something. -/
inductive Outcall where
  | initiate
  | goaway (errorCode : Nat) (lastStreamId : Option Nat)
  | headers (streamId : Nat) (fields : List Field) (endStream : Bool)
  | data (streamId : Nat) (content : Bytes) (endStream : Bool)
  | reset (streamId errorCode : Nat)
  | acknowledge (length streamId : Nat)

def Outcall.method : Outcall → H2 κ → κ → H2Call κ Unit
  | .initiate => fun h2 core => h2.initiateConnection core
  | .goaway errorCode lastStreamId => fun h2 core => h2.closeConnection core errorCode lastStreamId
  | .headers streamId fields endStream => fun h2 core =>
    h2.sendHeaders core streamId fields endStream
  | .data streamId content endStream => fun h2 core => h2.sendData core streamId content endStream
  | .reset streamId errorCode => fun h2 core => h2.resetStream core streamId errorCode
  | .acknowledge length streamId => fun h2 core => h2.acknowledgeReceivedData core length streamId

/--
The states in which a session that has not raised waits for its owner or its peer.

Every chunk is received from such a state, also those read while a response is sent.
-/
inductive Waiting : HTTP2Session κ δ → Prop where
  | created (transport : Transport) : Waiting (create packages transport)
  | begins {state : HTTP2Session κ δ} (waiting : Waiting state) :
    Waiting { state with initialized := true }
  | closes {state : HTTP2Session κ δ} (waiting : Waiting state) :
    Waiting { state with closed := true }
  | reads {state : HTTP2Session κ δ} {reads : List (Except Exn Bytes)} (waiting : Waiting state) :
    Waiting { state with transport := { state.transport with reads } }
  | flushes {before after : HTTP2Session κ δ} (waiting : Waiting before)
    (ran : flush before = (.ok (), after)) : Waiting after
  | exchanges (outcall : Outcall) {before after : HTTP2Session κ δ} (waiting : Waiting before)
    (ran : (do callH2 packages outcall.method; flush) before = (.ok (), after)) : Waiting after
  | prefaced {before after : HTTP2Session κ δ} {events : List Event} (waiting : Waiting before)
    (ran : onConnection (H2Adapter.receiveData packages http2Preface) before =
      (.ok events, after)) : Waiting after
  | receives {data : Bytes} {before after : HTTP2Session κ δ} (waiting : Waiting before)
    (ran : receive packages data before = (.ok (), after)) : Waiting after

/-- The states of a session between the frames that it takes off its buffer. -/
inductive Between : HTTP2Session κ δ → Prop where
  | waits {state : HTTP2Session κ δ} {buffer : Bytes} {captureBytes : Nat}
    (waiting : Waiting packages state) : Between { state with buffer, captureBytes }
  | takes {wire buffer : Bytes} {maximum : Nat} {before after : HTTP2Session κ δ}
    (between : Between before) (framed : IsWireFrame wire)
    (fits : (headerOf wire).length ≤ maximum)
    (ran : receiveFrame packages wire maximum { before with buffer } = (.ok (), after)) :
    Between after

/-- The states of a session that is only closed once a call on it has raised. -/
inductive Lifetime : HTTP2Session κ δ → Prop where
  | unraised {state : HTTP2Session κ δ} (between : Between packages state) : Lifetime state
  | raised {before after : HTTP2Session κ δ} {error : Exn} (call : Call)
    (run : Run packages false before) (ran : call.perform packages before = (.error error, after)) :
    Lifetime after
  | closed {before after : HTTP2Session κ δ} {outcome : Except Exn Unit} {errorCode : Nat}
    (lifetime : Lifetime before) (ran : close packages errorCode before = (outcome, after)) :
    Lifetime after

/-! ### Feeding octets -/

/-- Receive one chunk after another. -/
def receiveAll : List Bytes → SessionM κ δ Unit
  | [] => pure ()
  | chunk :: rest => do
    receive packages chunk
    receiveAll rest

/-- A session that begins with some octets and is then fed chunks. -/
def feed (incomingData : Bytes) (chunks : List Bytes) : SessionM κ δ Unit := do
  initializeSession packages incomingData
  receiveAll packages chunks

/-! ### What a state has captured -/

/-- The octets of the captured frames, one after another. -/
def rawOctets (session : HTTP2Session κ δ) : Bytes :=
  session.capture.frames.flatMap ParsedFrame.raw

/-- Everything captured, followed by what is not a whole frame yet. -/
def content (session : HTTP2Session κ δ) : Bytes := session.rawOctets ++ session.buffer

/-- The entries the captured frames were charged for. -/
def entriesCharged (session : HTTP2Session κ δ) : Nat :=
  (session.capture.frames.map fun frame =>
    reservedEntries frame.header (frame.raw.drop frameHeaderSize)).sum

/-- The entries the captured frames keep. -/
def entriesKept (session : HTTP2Session κ δ) : Nat :=
  (session.capture.frames.map fun frame => frame.payload.entryCount).sum

/-! ### The grammar of accepted frames -/

/-- The frames after an open block continue it on its stream until one of them ends it. -/
def Continued (stream : Nat) : (used : Nat) → List ParsedFrame → Prop
  -- At the end of the list the block may still be open.
  | used, [] => used ≤ maxHeaderListSize
  | used, frame :: rest =>
    frame.header.kind = some .continuation ∧ frame.header.streamId = stream ∧
      used + frame.header.length ≤ maxHeaderListSize ∧
      (frame.header.has FrameFlags.endHeaders = true ∨
        Continued stream (used + frame.header.length) rest)

/-- A HEADERS frame without its priority and padding. -/
def rebuiltHeaders (streamId : Nat) (payload : HeadersPayload) : Bytes :=
  HTTP2FrameBuilder.frameBytes FrameType.headers.code
    ((if payload.endStream then FrameFlags.endStream else 0) |||
      (if payload.endHeaders then FrameFlags.endHeaders else 0)) streamId payload.headerBlock

/-- What the library is shown of an accepted frame, if anything. -/
def shownToH2 (frame : ParsedFrame) : Option Handed :=
  match frame.header.kind, frame.payload with
  -- Advertisements, priorities and GOAWAY are dealt with by the session alone.
  | some .altsvc, _ | some .origin, _ | some .priority, _ | some .priorityUpdate, _
  | some .goaway, _ => none
  | _, .settings payload =>
    if payload.ack then some (.wire frame.raw) else some (.settings payload.entries)
  | _, .headers payload =>
    if frame.header.has FrameFlags.priority then
      some (.wire (rebuiltHeaders frame.header.streamId payload))
    else some (.wire frame.raw)
  | _, _ => some (.wire frame.raw)

/-- The frame sequences a session accepts, and what the library is shown of them. -/
structure Grammatical (session : HTTP2Session κ δ) : Prop where
  first : ∀ frame ∈ session.capture.frames.head?,
    frame.header.kind = some .settings ∧ frame.header.has FrameFlags.ack = false ∧
      frame.header.streamId = 0 ∧
      WellFormed frame.header (frame.raw.drop frameHeaderSize)
  blocks : ∀ older opening newer, session.capture.frames = older ++ opening :: newer →
    opening.header.kind = some .headers → opening.header.has FrameFlags.endHeaders = false →
      Continued opening.header.streamId opening.header.length newer
  unpromised : ∀ frame ∈ session.capture.frames, frame.header.kind ≠ some .pushPromise
  malformed : ∀ frame ∈ session.capture.frames, frame.payload.parseError ≠ none →
    frame.header.kind = some .altsvc ∨ frame.header.kind = some .origin
  shown : session.history.handed = session.capture.frames.filterMap shownToH2

end SolveTls.HTTP2Session
