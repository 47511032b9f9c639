import SolveTls.Http2.SessionRuns

/-! The documented behaviour of the HTTP/2 library that results about the program rest on. -/

namespace SolveTls

variable {κ α : Type}

/-- Every end a call may come to, whatever the codecs answer it, satisfies this. -/
def H2Call.Ends (holds : Except Exn α → κ → List WireFrame → Prop) : H2Call κ α → Prop
  | .done result core queued => holds result core queued
  | .decode _ resume => ∀ decoded, (resume decoded).Ends holds
  | .resizeEncoder _ resume => resume.Ends holds
  | .encode _ resume => ∀ block, (resume block).Ends holds

/-- The call does not resize the encoder, and ends in such a state. -/
def H2Call.Unresized (holds : κ → Prop) : H2Call κ α → Prop
  | .done _ core _ => holds core
  | .decode _ resume => ∀ decoded, (resume decoded).Unresized holds
  | .resizeEncoder _ _ => False
  | .encode _ resume => ∀ block, (resume block).Unresized holds

/-- The call has the expected header block decoded before it returns, and no other. -/
def H2Call.Decodes (holds : Except Exn α → κ → Prop) : (expected : Option Bytes) → H2Call κ α → Prop
  | expected, .done result core _ =>
    holds result core ∧ ((∃ value, result = .ok value) → expected = none)
  | none, .decode _ _ => False
  | some block, .decode data resume => data = block ∧
    (∀ fields, (resume (.ok fields)).Decodes holds none) ∧
    -- A block that cannot be decoded is an error.
    ∀ raised, (resume (.error raised)).Ends fun result _ _ => ∃ error, result = .error error
  | expected, .resizeEncoder _ resume => resume.Decodes holds expected
  | expected, .encode _ resume => ∀ block, (resume block).Decodes holds expected

/-- The call raises no error of HTTP/1.1, unless it is one of decoding. -/
def H2Call.Modern : H2Call κ α → Prop
  | .done result _ _ => RaisesOnly Exn.isModern result
  | .decode _ resume => ∀ decoded, RaisesOnly Exn.isModern decoded → (resume decoded).Modern
  | .resizeEncoder _ resume => resume.Modern
  | .encode _ resume => ∀ block, (resume block).Modern

/-- The third-party functions raise no errors of HTTP/1.1, which are the program's own. -/
structure Packages.Modern {δ : Type} (packages : Packages κ δ) : Prop where
  calls : ∀ (outcall : HTTP2Session.Outcall) core, (outcall.method packages.h2 core).Modern
  receives : ∀ core wire, (packages.h2.receiveData core wire).Modern
  windows : ∀ core streamId,
    RaisesOnly Exn.isModern (packages.h2.localFlowControlWindow core streamId)
  decodes : ∀ decoder block, RaisesOnly Exn.isModern (packages.hpack.decode decoder block).1
  validates : ∀ isTrailer fields,
    RaisesOnly Exn.isModern (packages.validateHeaders isTrailer fields)

/-- The write raises no error of HTTP/1.1. -/
def WriteOutcome.Modern : WriteOutcome → Prop
  | .sent => True
  | .sentThenRaised raised | .refused raised => raised.isModern = true

/-- No await of the transport raises an error of HTTP/1.1. -/
structure Transport.Modern (transport : Transport) : Prop where
  reads : ∀ outcome ∈ transport.reads, RaisesOnly Exn.isModern outcome
  writes : ∀ outcome ∈ transport.writes, outcome.Modern
  rejections : ∀ outcome ∈ transport.rejections, outcome.Modern
  pauses : ∀ raised, some raised ∈ transport.pauses → raised.isModern = true

/-- The code says that something went wrong, and fits a frame. -/
def IsFault (errorCode : Nat) : Prop := errorCode ≠ ErrorCode.noError.code ∧ errorCode < 2 ^ 32

instance (errorCode : Nat) : Decidable (IsFault errorCode) := inferInstanceAs (Decidable (_ ∧ _))

/-- Whether a queued frame acknowledges a SETTINGS frame. -/
def WireFrame.isAck (frame : WireFrame) : Bool :=
  frame.type = FrameType.settings.code && frame.flags &&& FrameFlags.ack != 0

/-- The acknowledgment of a SETTINGS frame. -/
def settingsAck : WireFrame where
  type := FrameType.settings.code
  flags := FrameFlags.ack
  streamId := 0
  payload := []

namespace H2

/-- The library opens a connection, takes the client preface in silence and can close it. -/
structure Greets (h2 : H2 κ) : Prop where
  /-- Opening queues our own preface; the client's is answered with nothing. -/
  greeting : ∃ opened queued greeted,
    h2.initiateConnection (h2.create HTTP2Session.localSettings serverMaxFrameSize) =
      .done (.ok ()) opened queued ∧
    h2.receiveData opened http2Preface = .done (.ok []) greeted []
  /-- An open connection can always be closed. -/
  closing : ∀ opened queued,
    h2.initiateConnection (h2.create HTTP2Session.localSettings serverMaxFrameSize) =
      .done (.ok ()) opened queued →
    ∀ errorCode lastStreamId, ∃ closed goaway,
      h2.closeConnection opened errorCode lastStreamId = .done (.ok ()) closed goaway

/-- Assign a table size to the encoder first, if there is one. -/
def assigning (size : Option Nat) (call : H2Call κ α) : H2Call κ α :=
  match size with
  | none => call
  | some size => .resizeEncoder size call

/--
A SETTINGS frame is applied and acknowledged, or it ends the connection without acknowledgment.

The observation gives the settings of the peer as the library has them.
-/
structure Settles (h2 : H2 κ) (remote : κ → Nat → Option Nat) : Prop where
  tableSize : ∀ core,
    remote core SettingsIdentifier.headerTableSize = some (h2.remoteHeaderTableSize core)
  receives : ∀ (core : κ) (items : Dict Nat Nat) (wire : Bytes), (items.map Prod.fst).Nodup →
    (∀ item ∈ items, item.1 < 2 ^ 16 ∧ item.2 < 2 ^ 32) →
    HTTP2FrameBuilder.buildSettingsFrame items false = .ok wire →
      (∃ events core',
        h2.receiveData core wire =
          assigning (items.get? SettingsIdentifier.headerTableSize)
            (.done (.ok events) core' [settingsAck]) ∧
        ∀ identifier, remote core' identifier =
          (items.get? identifier).or (remote core identifier)) ∨
      (h2.receiveData core wire).Ends fun result _ queued =>
        (∃ message code, result = .error (.protocolError message code)) ∧
          (∃ frame ∈ queued, frame.type = FrameType.goaway.code) ∧
          ∀ frame ∈ queued, frame.isAck = false
  /-- The client preface is answered with nothing. -/
  prefaced : ∀ core, (h2.receiveData core http2Preface).Ends fun result _ queued =>
    (∃ events, result = .ok events) → queued = []
  /-- Closing always goes through, and acknowledges nothing. -/
  closes : ∀ core errorCode lastStreamId,
    (h2.closeConnection core errorCode lastStreamId).Ends fun result _ queued =>
      result = .ok () ∧ ∀ frame ∈ queued, frame.isAck = false

/-- Items are refused one by one: what else a frame holds makes no difference to it. -/
structure Itemwise (h2 : H2 κ) (refuses : κ → Nat × Nat → Prop) : Prop where
  accepts : ∀ (core : κ) (items : Dict Nat Nat) (wire : Bytes), items ≠ [] →
    (items.map Prod.fst).Nodup → (∀ item ∈ items, item.1 < 2 ^ 16 ∧ item.2 < 2 ^ 32) →
    HTTP2FrameBuilder.buildSettingsFrame items false = .ok wire →
      ((∃ events core' queued,
        h2.receiveData core wire =
          assigning (items.get? SettingsIdentifier.headerTableSize)
            (.done (.ok events) core' queued)) ↔ ∀ item ∈ items, ¬ refuses core item)
  others : ∀ (core core' : κ) (items : Dict Nat Nat) (wire : Bytes) (events : List Event)
    (queued : List WireFrame), items ≠ [] → (items.map Prod.fst).Nodup →
    (∀ item ∈ items, item.1 < 2 ^ 16 ∧ item.2 < 2 ^ 32) →
    HTTP2FrameBuilder.buildSettingsFrame items false = .ok wire →
    h2.receiveData core wire =
      assigning (items.get? SettingsIdentifier.headerTableSize) (.done (.ok events) core' queued) →
    ∀ other : Nat × Nat, other.1 ∉ items.map Prod.fst →
      (refuses core' other ↔ refuses core other)

/-- The peer's table size is changed by its SETTINGS frames and by nothing else. -/
structure Announces (h2 : H2 κ) : Prop where
  initial : h2.remoteHeaderTableSize (h2.create HTTP2Session.localSettings serverMaxFrameSize) = 4096
  opens : ∀ core,
    h2.remoteHeaderTableSize (h2.openInboundStreams core).2 = h2.remoteHeaderTableSize core
  calls : ∀ (outcall : HTTP2Session.Outcall) core, (outcall.method h2 core).Unresized fun core' =>
    h2.remoteHeaderTableSize core' = h2.remoteHeaderTableSize core
  receives : ∀ core wire, wire = http2Preface ∨ IsWireFrame wire ∧
    ((headerOf wire).kind ≠ some .settings ∨ (headerOf wire).has FrameFlags.ack = true) →
      (h2.receiveData core wire).Unresized fun core' =>
        h2.remoteHeaderTableSize core' = h2.remoteHeaderTableSize core

/-! ### Streams as a client drives them -/

/-- How far the client has come with a stream. -/
inductive StreamPhase where
  | idle
  | receiving
  | finished
  deriving DecidableEq, Repr

/-- A header block of which not all fragments have come. -/
structure OpenBlock where
  streamId : Nat
  endStream : Bool
  fragment : Bytes
  deriving DecidableEq, Repr

/-- The block a frame belongs to with the fragment of the frame, and whether that completes it. -/
def gather (block : Option OpenBlock) (streamId : Nat) : Payload → Option (OpenBlock × Bool)
  | .headers payload =>
    some ({ streamId, endStream := payload.endStream, fragment := payload.headerBlock },
      payload.endHeaders)
  | .continuation payload => block.map fun opened =>
    ({ opened with fragment := opened.fragment ++ payload.headerBlock }, payload.endHeaders)
  | _ => none

/-- The fragments of the block that a frame completes. -/
def completes (block : Option OpenBlock) (streamId : Nat) (payload : Payload) : Option Bytes :=
  match gather block streamId payload with
  | some (gathered, true) => some gathered.fragment
  | _ => none

/-- What the library knows of its streams. -/
structure View where
  phase : Nat → StreamPhase := fun _ => .idle
  block : Option OpenBlock := none

/-- A stream enters another phase. -/
def View.enter (view : View) (streamId : Nat) (phase : StreamPhase) : View :=
  { view with phase := Function.update view.phase streamId phase }

/-- Streams may be cut short, but otherwise stay as they are. -/
def View.Settles (before after : View) : Prop :=
  after.block = before.block ∧ ∀ streamId, after.phase streamId = before.phase streamId ∨
    before.phase streamId = .receiving ∧ after.phase streamId = .finished

/-- The events that carry a part of a request. -/
def isContent : Event → Bool
  | .other | .streamReset _ => false
  | _ => true

/-- The payloads that carry no part of a request. -/
def isAside : Payload → Bool
  | .data _ | .headers _ | .continuation _ => false
  | _ => true

/-- What follows the last part of a stream. -/
def ending (streamId : Nat) (endStream : Bool) : List Event :=
  if endStream then [.streamEnded streamId] else []

/-- The phase after a part of a stream that may be the last one. -/
def phaseAfter (endStream : Bool) : StreamPhase := if endStream then .finished else .receiving

/-- How a frame is answered with events, and what it does to the streams. -/
inductive Reacts (streamId : Nat) (payload : Payload) (view : View) : List Event → View → Prop where
  | aside {after : View} (other : ∀ content, payload ≠ .data content)
    (outside : ∀ fields, payload ≠ .headers fields)
    (between : ∀ fields, payload ≠ .continuation fields) (settles : view.Settles after) :
    Reacts streamId payload view [] after
  | data {content : DataPayload} {length : Nat} (decoded : payload = .data content)
    (opened : view.phase streamId = .receiving) :
    Reacts streamId payload view
      (.dataReceived streamId content.data length :: ending streamId content.endStream)
      (view.enter streamId (phaseAfter content.endStream))
  | discarded {content : DataPayload} (decoded : payload = .data content)
    (closed : view.phase streamId = .finished) : Reacts streamId payload view [] view
  | fragment {block : OpenBlock} (gathered : gather view.block streamId payload = some (block, false)) :
    Reacts streamId payload view [] { view with block := some block }
  | request {block : OpenBlock} {headers : Option (List Field)}
    (gathered : gather view.block streamId payload = some (block, true))
    (opens : view.phase block.streamId = .idle) :
    Reacts streamId payload view
      (.requestReceived block.streamId headers block.endStream ::
        ending block.streamId block.endStream)
      { view.enter block.streamId (phaseAfter block.endStream) with block := none }
  | trailers {block : OpenBlock} {headers : Option (List Field)}
    (gathered : gather view.block streamId payload = some (block, true))
    (opened : view.phase block.streamId = .receiving) (ends : block.endStream = true) :
    Reacts streamId payload view
      [.trailersReceived block.streamId headers, .streamEnded block.streamId]
      { view.enter block.streamId .finished with block := none }
  | ignored {block : OpenBlock} (gathered : gather view.block streamId payload = some (block, true))
    (closed : view.phase block.streamId = .finished) :
    Reacts streamId payload view [] { view with block := none }

/-- Requests, data and trailers are reported as their frames come, each block decoded once. -/
structure Streams (h2 : H2 κ) (view : κ → View) : Prop where
  initial : view (h2.create HTTP2Session.localSettings serverMaxFrameSize) = {}
  opens : ∀ core, view (h2.openInboundStreams core).2 = view core
  calls : ∀ (outcall : HTTP2Session.Outcall) core,
    (outcall.method h2 core).Decodes (fun result core' =>
      (∃ value, result = .ok value) → (view core).Settles (view core')) none
  prefaced : ∀ core, (h2.receiveData core http2Preface).Decodes (fun result core' =>
    ∀ events, result = .ok events → events.filter isContent = [] ∧ view core' = view core) none
  receives : ∀ core wire payload, IsWireFrame wire →
    Encodes (headerOf wire) (wire.drop frameHeaderSize) payload →
    -- Only the continuation of a block may follow its beginning.
    (∀ block ∈ (view core).block, (∃ fields, payload = .continuation fields) ∧
      (headerOf wire).streamId = block.streamId) →
      (h2.receiveData core wire).Decodes (fun result core' => ∀ events, result = .ok events →
        Reacts (headerOf wire).streamId payload (view core) (events.filter isContent) (view core'))
        (completes (view core).block (headerOf wire).streamId payload)

/-! ### Field lists as they are reported -/

/-- The events that carry a field list. -/
def isReport : Event → Bool
  | .requestReceived _ _ _ | .trailersReceived _ _ => true
  | _ => false

/-- What is reported of a frame, and the block that is open behind it. -/
inductive Relayed (streamId : Nat) (payload : Payload) (block : Option OpenBlock) :
    List Event → Option OpenBlock → Prop where
  | outside (others : ∀ fields, payload ≠ .headers fields)
    (between : ∀ fields, payload ≠ .continuation fields) : Relayed streamId payload block [] block
  | fragment {opened : OpenBlock} (gathered : gather block streamId payload = some (opened, false)) :
    Relayed streamId payload block [] (some opened)
  | request {complete : OpenBlock} {headers : Option (List Field)} {ended : Bool}
    (gathered : gather block streamId payload = some (complete, true)) :
    Relayed streamId payload block [.requestReceived complete.streamId headers ended] none
  | trailers {complete : OpenBlock} {headers : Option (List Field)}
    (gathered : gather block streamId payload = some (complete, true)) :
    Relayed streamId payload block [.trailersReceived complete.streamId headers] none
  | ignored {complete : OpenBlock}
    (gathered : gather block streamId payload = some (complete, true)) :
    Relayed streamId payload block [] none

/--
Every block is decoded once it is complete, and at most one field list is reported for it.

On which streams requests and trailers are reported is left open.
-/
structure Relays (h2 : H2 κ) (block : κ → Option OpenBlock) : Prop where
  initial : block (h2.create HTTP2Session.localSettings serverMaxFrameSize) = none
  opens : ∀ core, block (h2.openInboundStreams core).2 = block core
  calls : ∀ (outcall : HTTP2Session.Outcall) core,
    (outcall.method h2 core).Decodes (fun result core' =>
      (∃ value, result = .ok value) → block core' = block core) none
  prefaced : ∀ core, (h2.receiveData core http2Preface).Decodes (fun result core' =>
    ∀ events, result = .ok events → block core' = block core) none
  receives : ∀ core wire payload, IsWireFrame wire →
    Encodes (headerOf wire) (wire.drop frameHeaderSize) payload →
    -- Only the continuation of a block may follow its beginning.
    (∀ opened ∈ block core, (∃ fields, payload = .continuation fields) ∧
      (headerOf wire).streamId = opened.streamId) →
      (h2.receiveData core wire).Decodes (fun result core' => ∀ events, result = .ok events →
        Relayed (headerOf wire).streamId payload (block core) (events.filter isReport) (block core'))
        (completes (block core) (headerOf wire).streamId payload)

/-! ### Inbound streams by their numbers -/

/-- No stream was opened in between, and none was opened again. -/
structure Holds (h2 : H2 κ) (opened : κ → List Nat) (closed : κ → Nat → Bool)
    (before after : κ) : Prop where
  opened : opened after = opened before
  closed : ∀ streamId, closed before streamId = true → closed after streamId = true
  limit : h2.maxConcurrentStreams after = h2.maxConcurrentStreams before

/--
Inbound streams are opened by their requests alone, in increasing order, and can be closed.

The observations give the streams opened so far in order, and which streams are closed.
-/
structure Inbound (h2 : H2 κ) (opened : κ → List Nat) (closed : κ → Nat → Bool) : Prop where
  initial : opened (h2.create HTTP2Session.localSettings serverMaxFrameSize) = []
  highest : ∀ core, h2.highestInboundStreamId core = (opened core).getLast?.getD 0
  counts : ∀ core, (h2.openInboundStreams core).1 =
    (opened core).countP fun streamId => !closed core streamId
  forgets : ∀ core, Holds h2 opened closed core (h2.openInboundStreams core).2
  known : ∀ core streamId, h2.streamClosed core streamId = some false →
    streamId ∈ opened core ∧ closed core streamId = false
  calls : ∀ (outcall : HTTP2Session.Outcall) core, (outcall.method h2 core).Ends fun result core' _ =>
    result = .ok () → Holds h2 opened closed core core'
  resets : ∀ core streamId errorCode,
    (h2.resetStream core streamId errorCode).Ends fun result core' _ =>
      result = .ok () → closed core' streamId = true
  /-- Neither the preface nor SETTINGS open a stream. -/
  settles : ∀ core wire,
    wire = http2Preface ∨ IsWireFrame wire ∧ (headerOf wire).kind = some .settings →
    (h2.receiveData core wire).Ends fun result core' _ =>
      (∃ events, result = .ok events) → Holds h2 opened closed core core'
  receives : ∀ core wire, IsWireFrame wire → (h2.receiveData core wire).Ends fun result core' _ =>
    ∀ events, result = .ok events → Holds h2 opened closed core core' ∨
      ∃ streamId headers ended, Event.requestReceived streamId headers ended ∈ events ∧
        h2.highestInboundStreamId core < streamId ∧ opened core' = opened core ++ [streamId] ∧
        (∀ other, closed core other = true → closed core' other = true) ∧
        h2.maxConcurrentStreams core' = h2.maxConcurrentStreams core

/-! ### What is queued -/

/-- A GOAWAY frame without debug data. -/
def goawayFrame (lastStreamId errorCode : Nat) : WireFrame where
  type := FrameType.goaway.code
  flags := 0
  streamId := 0
  payload := Octets.toBigEndian 4 lastStreamId ++ Octets.toBigEndian 4 errorCode

/-- Whether a queued frame ends the connection. -/
def isGoaway (frame : WireFrame) : Bool := frame.type = FrameType.goaway.code

/-- Whether a queued frame is a part of a response. -/
def isResponse (frame : WireFrame) : Bool :=
  frame.type = FrameType.headers.code || frame.type = FrameType.continuation.code ||
    frame.type = FrameType.data.code

/-- Whether a queued frame ends its stream. -/
def endsStream (frame : WireFrame) : Bool :=
  (frame.type = FrameType.headers.code || frame.type = FrameType.data.code) &&
    frame.flags &&& FrameFlags.endStream != 0

/-- A DATA frame without padding. -/
def dataFrame (streamId : Nat) (content : Bytes) (endStream : Bool) : WireFrame where
  type := FrameType.data.code
  flags := if endStream then FrameFlags.endStream else 0
  streamId
  payload := content

/-- Frames of which none is a part of a response or ends the connection. -/
def Plain (frames : List WireFrame) : Prop :=
  ∀ frame ∈ frames, isResponse frame = false ∧ isGoaway frame = false

/-- A header block as it is sent: HEADERS and its continuations. -/
def IsBlock (streamId : Nat) (endStream : Bool) (frames : List WireFrame) : Prop :=
  ∃ first rest, frames = first :: rest ∧ first.type = FrameType.headers.code ∧
    first.streamId = streamId ∧ endsStream first = endStream ∧
    ∀ frame ∈ rest, frame.type = FrameType.continuation.code

/-- Each call queues the frames it is for: responses, GOAWAY frames and everything else apart. -/
structure Queues (h2 : H2 κ) : Prop where
  initiates : ∀ core, (h2.initiateConnection core).Ends fun _ _ queued => Plain queued
  /-- Octets that are refused are answered with one GOAWAY, which says why. -/
  receives : ∀ core wire, (h2.receiveData core wire).Ends fun result _ queued =>
    Plain queued ∧ (∀ message code, result ≠ .error (.protocolError message code)) ∨
    ∃ message code answers lastStreamId, result = .error (.protocolError message code) ∧
      code ≠ ErrorCode.noError.code ∧ Plain answers ∧
      queued = answers ++ [goawayFrame lastStreamId code]
  closes : ∀ core errorCode lastStreamId,
    (h2.closeConnection core errorCode lastStreamId).Ends fun result _ queued =>
      result = .ok () ∧ ∃ last, queued = [goawayFrame last errorCode]
  /-- A call that raises queues nothing. -/
  headers : ∀ core streamId fields endStream,
    (h2.sendHeaders core streamId fields endStream).Ends fun result _ queued =>
      result = .ok () ∧ IsBlock streamId endStream queued ∨
        (∃ raised, result = .error raised) ∧ queued = []
  data : ∀ core streamId content endStream,
    (h2.sendData core streamId content endStream).Ends fun result _ queued =>
      result = .ok () ∧ queued = [dataFrame streamId content endStream] ∨
        (∃ raised, result = .error raised) ∧ queued = []
  resets : ∀ core streamId errorCode,
    (h2.resetStream core streamId errorCode).Ends fun _ _ queued => Plain queued
  acknowledges : ∀ core length streamId,
    (h2.acknowledgeReceivedData core length streamId).Ends fun _ _ queued => Plain queued

/-- A request that is to be continued is the only event that carries anything. -/
def Lone (events : List Event) : Prop := ∀ streamId headers,
  Event.requestReceived streamId headers false ∈ events →
    events.filter isContent = [.requestReceived streamId headers false]

/-- Protocol errors have codes that say so, and requests that go on are reported alone. -/
structure Complains (h2 : H2 κ) : Prop where
  calls : ∀ (outcall : HTTP2Session.Outcall) core, (outcall.method h2 core).Ends fun result _ _ =>
    ∀ message code, result = .error (.protocolError message code) → IsFault code
  windows : ∀ core streamId message code,
    h2.localFlowControlWindow core streamId = .error (.protocolError message code) → IsFault code
  receives : ∀ core wire, (h2.receiveData core wire).Ends fun result _ _ =>
    ∀ message code, result = .error (.protocolError message code) → IsFault code
  requests : ∀ core wire, IsWireFrame wire → (h2.receiveData core wire).Ends fun result _ _ =>
    ∀ events, result = .ok events → Lone events

end H2

end SolveTls
