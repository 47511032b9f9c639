import SolveTls.Http2.Frames

/-! The HTTP/2 library the session drives, as a parameter that may behave in any way. -/

namespace SolveTls

/-- A header field: its name and its value, as octets. -/
abbrev Field := Bytes × Bytes

/-- The exceptions that the handlers of the program tell apart. -/
inductive Exn where
  /-- `h2.exceptions.ProtocolError` or a subclass, with its `error_code`. -/
  | protocolError (message : String) (code : Nat)
  /-- Any other `H2Error`. -/
  | h2Error (message : String)
  | frameParsing (error : HTTP2FrameParsingError)
  /-- `OversizedHeaderListError`, the one `HPACKError` that is not reclassified. -/
  | oversizedHeaderList (message : String)
  /-- Any other `HPACKError`. -/
  | hpack (message : String)
  | ssl (message : String)
  /-- `ConnectionError` or a subclass. -/
  | connection (message : String)
  | timeout
  | http1 (message : String) (statusCode : Nat)
  /-- Any other `ValueError`. -/
  | value (message : String)
  /-- `CancelledError`, which is not an `Exception`. -/
  | cancelled
  /-- Any other `Exception`. -/
  | other (message : String)
  deriving DecidableEq, Repr

/-- `HTTP1Error` -/
def Exn.isHttp1 : Exn → Bool
  | .http1 _ _ => true
  | _ => false

/-- Any error but those of HTTP/1.1. -/
def Exn.isModern (raised : Exn) : Bool := !raised.isHttp1

/-- Any error but those of HTTP/1.1 and the protocol errors of HTTP/2. -/
def Exn.isOwn : Exn → Bool
  | .http1 _ _ | .protocolError _ _ => false
  | _ => true

/-- Every error is of an allowed class. -/
def RaisesOnly {α : Type} (allowed : Exn → Bool) (outcome : Except Exn α) : Prop :=
  ∀ raised, outcome = .error raised → allowed raised = true

/-- The error an `HTTP2FrameBuilder` call raises, as an exception of the session. -/
def liftBuilder {α : Type} : Except BuildError α → Except Exn α
  | .ok value => .ok value
  | .error (.value message) => .error (.value message)
  | .error (.struct message) => .error (.other message)

/-- A frame queued for sending. -/
structure WireFrame where
  type : Nat
  flags : Nat
  streamId : Nat
  payload : Bytes
  deriving DecidableEq, Repr

/-- The octets of a queued frame. -/
def WireFrame.serialize (frame : WireFrame) : Bytes :=
  HTTP2FrameBuilder.frameBytes frame.type frame.flags frame.streamId frame.payload

/-- The octets of all queued frames, in order. -/
def serializeAll (frames : List WireFrame) : Bytes := frames.flatMap WireFrame.serialize

/-- The events of `receive_data` that the session looks at. -/
inductive Event where
  | requestReceived (streamId : Nat) (headers : Option (List Field)) (streamEnded : Bool)
  | trailersReceived (streamId : Nat) (headers : Option (List Field))
  | dataReceived (streamId : Nat) (data : Bytes) (flowControlledLength : Nat)
  | streamEnded (streamId : Nat)
  | streamReset (streamId : Nat)
  | other
  deriving DecidableEq, Repr

/--
One call of an `H2Connection` method, with the calls it makes back into the codecs.

The library decodes, resizes and encodes through the objects the adapter installed.
In the end it returns or raises, in a new state and with further frames queued.
-/
inductive H2Call (κ α : Type) where
  | done (result : Except Exn α) (core : κ) (queued : List WireFrame)
  | decode (block : Bytes) (resume : Except Exn (List Field) → H2Call κ α)
  | resizeEncoder (size : Nat) (resume : H2Call κ α)
  | encode (headers : List Field) (resume : Bytes → H2Call κ α)

/-- The methods and attributes of `H2Connection` that the program uses. -/
structure H2 (κ : Type) where
  /-- A server-side connection with these local settings and inbound frame limit. -/
  create : Dict Nat Nat → Nat → κ
  initiateConnection : κ → H2Call κ Unit
  receiveData : κ → Bytes → H2Call κ (List Event)
  closeConnection : κ → (errorCode : Nat) → (lastStreamId : Option Nat) → H2Call κ Unit
  sendHeaders : κ → (streamId : Nat) → List Field → (endStream : Bool) → H2Call κ Unit
  sendData : κ → (streamId : Nat) → Bytes → (endStream : Bool) → H2Call κ Unit
  resetStream : κ → (streamId errorCode : Nat) → H2Call κ Unit
  acknowledgeReceivedData : κ → (length streamId : Nat) → H2Call κ Unit
  highestInboundStreamId : κ → Nat
  highestOutboundStreamId : κ → Nat
  /-- `streams.get(id)`, and whether that stream is closed. -/
  streamClosed : κ → Nat → Option Bool
  /-- Counting the open streams also forgets the closed ones. -/
  openInboundStreams : κ → Nat × κ
  maxConcurrentStreams : κ → Nat
  maxInboundFrameSize : κ → Nat
  maxOutboundFrameSize : κ → Nat
  localFlowControlWindow : κ → Nat → Except Exn Int
  remoteHeaderTableSize : κ → Nat

/-- The header codecs of the `hpack` package. -/
structure Hpack (δ : Type) where
  /-- A decoder with the given header list limit. -/
  decoder : Nat → δ
  decode : δ → Bytes → Except Exn (List Field) × δ
  /-- The representation of a header list against a table, and the entries it inserts. -/
  represent : (maxSize : Nat) → (entries headers : List Field) → Bytes × List Field

/-- The third-party functions the HTTP/2 code is built on. -/
structure Packages (κ δ : Type) where
  h2 : H2 κ
  hpack : Hpack δ
  /-- `h2.utilities.validate_headers` for a request or for its trailers. -/
  validateHeaders : (isTrailer : Bool) → List Field → Except Exn Unit
  /-- `ipaddress.IPv6Address(text).compressed`, or nothing when it raises. -/
  ipv6Compressed : List Char → Option (List Char)

end SolveTls
