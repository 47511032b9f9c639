import SolveTls.Http2.H2Laws

/-! A small HTTP/2 library that keeps to the documented behaviour, and refuses what it does not know. -/

namespace SolveTls

open H2

namespace Reference

/-- The state of a server connection. -/
structure Core where
  headerTableSize : Nat := 4096
  /-- The other settings of the client. -/
  remote : Dict Nat Nat := []
  /-- The streams the client opened, in order. -/
  opened : List Nat := []
  /-- Those on which it will send nothing more. -/
  finished : List Nat := []
  closed : List Nat := []
  block : Option OpenBlock := none
  deriving DecidableEq, Repr

namespace Core

def highest (core : Core) : Nat := core.opened.getLast?.getD 0

def phase (core : Core) (streamId : Nat) : StreamPhase :=
  if streamId ∈ core.opened then
    if streamId ∈ core.finished then .finished else .receiving
  else .idle

/-- A new stream, on which everything is still to come. -/
def opening (core : Core) (streamId : Nat) : Core :=
  { core with
    opened := core.opened ++ [streamId], finished := core.finished.filter (· ≠ streamId) }

/-- The client is done with a stream if this was its last part. -/
def received (core : Core) (streamId : Nat) (endStream : Bool) : Core :=
  if endStream then { core with finished := streamId :: core.finished } else core

/-- We are done with a stream, which closes it if the client is done as well. -/
def sent (core : Core) (streamId : Nat) (endStream : Bool) : Core :=
  if endStream ∧ streamId ∈ core.finished then { core with closed := streamId :: core.closed }
  else core

/-- Neither side will send anything more on a stream. -/
def shut (core : Core) (streamId : Nat) : Core :=
  { core with finished := streamId :: core.finished, closed := streamId :: core.closed }

/-- The settings of the client with those of one frame. -/
def settled (core : Core) (entries : List (Nat × Nat)) : Core :=
  { core with
    headerTableSize :=
      (Dict.last? entries SettingsIdentifier.headerTableSize).getD core.headerTableSize
    remote := core.remote.update entries }

end Core

/-- Raise a protocol error after queueing the GOAWAY that announces it. -/
def refuse {α : Type} (core : Core) (message : String) (code : ErrorCode) : H2Call Core α :=
  .done (.error (.protocolError message code.code)) core [goawayFrame core.highest code.code]

/-- The content of a padded payload, if the padding fits. -/
def unpad (header : FrameHeader) (body : Bytes) : Option Bytes :=
  if header.has FrameFlags.padded then
    match body with
    | [] => none
    | padLength :: rest =>
      if padLength.toNat ≤ rest.length then some (rest.take (rest.length - padLength.toNat))
      else none
  else some body

def receiveSettings (core : Core) (body : Bytes) : H2Call Core (List Event) :=
  if (settingsEntries body).all fun entry => SettingInRange entry then
    assigning (Dict.last? (settingsEntries body) SettingsIdentifier.headerTableSize)
      (.done (.ok [.other]) (core.settled (settingsEntries body)) [settingsAck])
  else refuse core "Invalid setting" .protocolError

def receiveContent (core : Core) (streamId : Nat) (content : Bytes) (endStream : Bool)
    (length : Nat) : H2Call Core (List Event) :=
  match core.phase streamId with
  | .receiving =>
    .done (.ok (.dataReceived streamId content length :: ending streamId endStream))
      (core.received streamId endStream) []
  | .finished => .done (.ok []) core []
  | .idle => refuse core "DATA on an idle stream" .protocolError

/-- The events of a decoded block, which opens a stream or ends one. -/
def receiveFields (core : Core) (block : OpenBlock) (fields : List Field) :
    H2Call Core (List Event) :=
  match core.phase block.streamId with
  | .idle =>
    if block.streamId % 2 = 1 ∧ core.highest < block.streamId then
      .done (.ok (.requestReceived block.streamId (some fields) block.endStream ::
          ending block.streamId block.endStream))
        ((core.opening block.streamId).received block.streamId block.endStream) []
    else refuse core "Invalid stream identifier" .protocolError
  | .receiving =>
    if block.endStream then
      .done (.ok [.trailersReceived block.streamId (some fields), .streamEnded block.streamId])
        (core.received block.streamId true) []
    else refuse core "Trailers must end the stream" .protocolError
  | .finished => .done (.ok []) core []

/-- A block is decoded when its last fragment has come. -/
def receiveBlock (core : Core) (block : OpenBlock) (complete : Bool) : H2Call Core (List Event) :=
  if complete then
    .decode block.fragment fun decoded =>
      match decoded with
      | .ok fields => receiveFields { core with block := none } block fields
      | .error _ => refuse core "Error decoding header block" .compressionError
  else .done (.ok []) { core with block := some block } []

/-- The answer to a frame of some type. -/
def receiveKind (core : Core) (header : FrameHeader) (body : Bytes) :
    Option FrameType → H2Call Core (List Event)
  | some .settings =>
    if header.has FrameFlags.ack then .done (.ok [.other]) core [] else receiveSettings core body
  | some .data =>
    match unpad header body with
    | none => refuse core "Invalid padding" .protocolError
    | some content =>
      receiveContent core header.streamId content (header.has FrameFlags.endStream) body.length
  | some .headers =>
    -- The session has taken the priority off.
    if header.has FrameFlags.priority then refuse core "Unexpected priority" .internalError
    else
      match unpad header body with
      | none => refuse core "Invalid padding" .protocolError
      | some fragment =>
        receiveBlock core
          { streamId := header.streamId, endStream := header.has FrameFlags.endStream, fragment }
          (header.has FrameFlags.endHeaders)
  | some .continuation =>
    match core.block with
    | none => refuse core "Unexpected CONTINUATION" .protocolError
    | some opened =>
      receiveBlock core { opened with fragment := opened.fragment ++ body }
        (header.has FrameFlags.endHeaders)
  | some .rstStream =>
    if header.streamId ∈ core.opened then
      .done (.ok [.streamReset header.streamId]) (core.shut header.streamId) []
    else .done (.ok []) core []
  | some .ping =>
    if header.has FrameFlags.ack then .done (.ok [.other]) core []
    else .done (.ok [.other]) core [{
      type := FrameType.ping.code, flags := FrameFlags.ack, streamId := 0, payload := body }]
  | _ => .done (.ok [.other]) core []

def receiveData (core : Core) (wire : Bytes) : H2Call Core (List Event) :=
  if wire = http2Preface then .done (.ok []) core []
  else receiveKind core (headerOf wire) (wire.drop frameHeaderSize) (headerOf wire).kind

/-- A call on a stream that can still be sent on. -/
def onStream (core : Core) (streamId : Nat) (call : H2Call Core Unit) : H2Call Core Unit :=
  if streamId ∈ core.opened ∧ streamId ∉ core.closed then call
  else .done (.error (.protocolError "Stream is closed" ErrorCode.streamClosed.code)) core []

end Reference

open Reference

/-- The library: one request at a time, without flow control. -/
def referenceH2 : H2 Core where
  create _ _ := {}
  initiateConnection core := .done (.ok ()) core [{
    type := FrameType.settings.code, flags := 0, streamId := 0
    payload := HTTP2FrameBuilder.settingsBytes HTTP2Session.localSettings }]
  receiveData := Reference.receiveData
  closeConnection core errorCode lastStreamId :=
    .done (.ok ()) core [goawayFrame (lastStreamId.getD core.highest) errorCode]
  sendHeaders core streamId fields endStream :=
    onStream core streamId (.encode fields fun block =>
      .done (.ok ()) (core.sent streamId endStream) [{
        type := FrameType.headers.code
        flags := FrameFlags.endHeaders ||| if endStream then FrameFlags.endStream else 0
        streamId
        payload := block }])
  sendData core streamId content endStream :=
    onStream core streamId (.done (.ok ()) (core.sent streamId endStream)
      [dataFrame streamId content endStream])
  resetStream core streamId errorCode :=
    onStream core streamId (.done (.ok ()) (core.shut streamId) [{
      type := FrameType.rstStream.code, flags := 0, streamId
      payload := Octets.toBigEndian 4 errorCode }])
  acknowledgeReceivedData core _ _ := .done (.ok ()) core []
  highestInboundStreamId core := core.highest
  highestOutboundStreamId _ := 0
  streamClosed core streamId :=
    if streamId ∈ core.opened then some (streamId ∈ core.closed) else none
  openInboundStreams core := (core.opened.countP fun streamId => streamId ∉ core.closed, core)
  maxConcurrentStreams _ := 100
  maxInboundFrameSize _ := serverMaxFrameSize
  maxOutboundFrameSize _ := defaultMaxFrameSize
  localFlowControlWindow _ _ := .ok 65535
  remoteHeaderTableSize core := core.headerTableSize

namespace Reference

/-- A field as a literal that is not indexed and not compressed. -/
def literal (field : Field) : Bytes :=
  0x00 :: UInt8.ofNat field.1.length :: (field.1 ++ UInt8.ofNat field.2.length :: field.2)

/-- The fields of a block of literals and of the most common indexed fields. -/
def fieldsOf : Nat → Bytes → Except Exn (List Field)
  | _, [] => .ok []
  | turns + 1, 0x82 :: rest => ((ascii ":method", ascii "GET") :: ·) <$> fieldsOf turns rest
  | turns + 1, 0x83 :: rest => ((ascii ":method", ascii "POST") :: ·) <$> fieldsOf turns rest
  | turns + 1, 0x84 :: rest => ((ascii ":path", ascii "/") :: ·) <$> fieldsOf turns rest
  | turns + 1, 0x87 :: rest => ((ascii ":scheme", ascii "https") :: ·) <$> fieldsOf turns rest
  | turns + 1, 0x00 :: nameLength :: rest =>
    match rest.drop nameLength.toNat with
    | [] => .error (.hpack "Truncated field")
    | valueLength :: rest' =>
      ((rest.take nameLength.toNat, rest'.take valueLength.toNat) :: ·) <$>
        fieldsOf turns (rest'.drop valueLength.toNat)
  | _, _ => .error (.hpack "Unknown representation")

end Reference

/-- Codecs without compression, whose tables stay empty. -/
def referenceHpack : Hpack Unit where
  decoder _ := ()
  decode _ block := (fieldsOf block.length block, ())
  represent _ _ headers := (headers.flatMap literal, [])

/-- Packages for connections that are used plainly. -/
def referencePackages : Packages Core Unit where
  h2 := referenceH2
  hpack := referenceHpack
  validateHeaders _ _ := .ok ()
  ipv6Compressed _ := none

namespace Reference

/-- The table sizes that the client of the examples asks for, one after the other. -/
def tableSizes : List (Nat × Nat) :=
  [(SettingsIdentifier.headerTableSize, 256), (SettingsIdentifier.headerTableSize, 512)]

/-- A SETTINGS frame that changes the table size twice. -/
def tableSizesWire : Bytes :=
  HTTP2FrameBuilder.frameBytes FrameType.settings.code 0 0
    (HTTP2FrameBuilder.settingsBytes tableSizes)

/-- The GET request for the root page. -/
def rootRequest : Bytes :=
  HTTP2FrameBuilder.frameBytes FrameType.headers.code
    (FrameFlags.endStream ||| FrameFlags.endHeaders) 1
    ([0x82, 0x84, 0x87] ++ literal (ascii ":authority", ascii "a"))

/-- A client that changes its table size twice and asks for the root page. -/
def plainRequest : Bytes := http2Preface ++ tableSizesWire ++ rootRequest

/-- A client that gives a stream to come a priority before it asks for the root page. -/
def prioritizedRequest : Bytes :=
  http2Preface ++ tableSizesWire ++
    HTTP2FrameBuilder.frameBytes FrameType.priorityUpdate.code 0 0
      (Octets.toBigEndian 4 3 ++ ascii "u=1") ++ rootRequest

/-- A client that sends content on a stream it never opened. -/
def strayRequest : Bytes :=
  http2Preface ++ tableSizesWire ++
    HTTP2FrameBuilder.frameBytes FrameType.data.code 0 1 (ascii "hi")

/-- The session that has received the request. -/
def requested : HTTP2Session Core Unit :=
  ((HTTP2Session.Call.begin plainRequest).perform referencePackages
    (HTTP2Session.create referencePackages {})).2

/-- The session that has received the request and the priority before it. -/
def prioritized : HTTP2Session Core Unit :=
  ((HTTP2Session.Call.begin prioritizedRequest).perform referencePackages
    (HTTP2Session.create referencePackages {})).2

/-- The session that has answered it. -/
def responded : HTTP2Session Core Unit :=
  ((HTTP2Session.Call.sendResponse (ascii "hi") [] 200).perform referencePackages requested).2

end Reference

end SolveTls
