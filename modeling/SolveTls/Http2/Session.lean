import SolveTls.Http2.Adapter
import SolveTls.Http2.Validation

/-! One HTTP/2 connection that captures frames, serves one request and refuses further streams. -/

namespace SolveTls

open Fallible

/-- The client connection preface. -/
def http2Preface : Bytes := ascii "PRI * HTTP/2.0\r\n\r\nSM\r\n\r\n"

def serverMaxFrameSize : Nat := 65536
def serverInitialWindowSize : Nat := 1048576
def maxCaptureBytes : Nat := 2097152
def maxCaptureFrames : Nat := 4096
def maxCaptureEntries : Nat := 1024

/-- What a connection leaves behind for the report. -/
structure HTTP2Capture where
  frames : List ParsedFrame := []
  initialSettings : Option (List (Nat × Nat)) := none
  headers : Option (List Field) := none
  trailers : List Field := []
  streamId : Option Nat := none
  expectationFailed : Bool := false
  deriving DecidableEq, Repr

/-- How one `transport.write` call ends. -/
inductive WriteOutcome where
  | sent
  /-- The call raises after its bytes were handed to the socket. -/
  | sentThenRaised (raised : Exn)
  /-- The call raises before anything is handed over. -/
  | refused (raised : Exn)
  deriving DecidableEq, Repr

/--
The transport and the event loop, as scripts of what each await will do.

A read past its script finds the connection closed; a write or a pause past its script succeeds.
-/
structure Transport where
  reads : List (Except Exn Bytes) := []
  writes : List WriteOutcome := []
  /-- The outcomes of the writes made while a protocol error is handled. -/
  rejections : List WriteOutcome := []
  pauses : List (Option Exn) := []
  /-- Everything handed to the socket, one entry per write. -/
  written : List (List WireFrame) := []
  /-- How the writes ended that were made while a protocol error was handled; nothing reads it. -/
  rejected : List WriteOutcome := []

/-- What is passed to the library for one captured frame. -/
inductive Handed where
  | wire (data : Bytes)
  | settings (entries : List (Nat × Nat))
  deriving DecidableEq, Repr

/-- History of the calls made along the way; no function reads it. -/
structure History where
  /-- The arguments of every `_process_frame` call. -/
  processed : List (ParsedFrame × Bytes) := []
  /-- What was passed to `receive_data` or `apply_settings` for captured frames. -/
  handed : List Handed := []
  /-- Whether nothing was queued each time a frame began to be processed. -/
  idle : Bool := true
  /-- The items of every SETTINGS frame built for the library. -/
  applied : List (Dict Nat Nat) := []
  /-- The capture as it was each time a request was accepted. -/
  accepted : List HTTP2Capture := []
  /-- For every protocol error, how many writes had been handed over when it came up. -/
  errors : List Nat := []
  deriving DecidableEq, Repr

/-- Note an outcome if it is a protocol error. -/
def History.noting {α : Type} (history : History) (written : Nat) : Except Exn α → History
  | .error (.protocolError _ _) => { history with errors := history.errors ++ [written] }
  | _ => history

/-- The attributes of a session, with the transport it writes to. -/
structure HTTP2Session (κ δ : Type) where
  transport : Transport := {}
  capture : HTTP2Capture := {}
  connection : H2Adapter κ δ
  buffer : Bytes := []
  captureBytes : Nat := 0
  captureEntries : Nat := 0
  firstFrame : Bool := true
  continuationStream : Option Nat := none
  headerBlockBytes : Nat := 0
  /-- A set of stream identifiers, listed without repetition. -/
  prioritizedIdleStreams : List Nat := []
  requestReady : Bool := false
  requestBytes : Nat := 0
  expectedLength : Option Nat := none
  cancelled : Bool := false
  initialized : Bool := false
  closed : Bool := false
  history : History := {}

/-- A method of the session. -/
abbrev SessionM (κ δ α : Type) := Fallible (HTTP2Session κ δ) Exn α

namespace HTTP2Session

variable {κ δ α : Type} (packages : Packages κ δ)

/-- The settings the server announces. -/
def localSettings : Dict Nat Nat := [
  (SettingsIdentifier.maxConcurrentStreams, 100),
  (SettingsIdentifier.maxHeaderListSize, maxHeaderListSize),
  (SettingsIdentifier.initialWindowSize, serverInitialWindowSize),
  (SettingsIdentifier.maxFrameSize, serverMaxFrameSize)]

/-- A new session on a transport. -/
def create (transport : Transport) : HTTP2Session κ δ where
  transport
  connection := {
    core := packages.h2.create localSettings serverMaxFrameSize
    decoder := { inner := packages.hpack.decoder maxHeaderListSize }
  }

/-- Run a method of the connection object. -/
def onConnection (method : Fallible (H2Adapter κ δ) Exn α) : SessionM κ δ α := fun self =>
  match method self.connection with
  | (outcome, connection) =>
    (outcome, { self with
      connection
      history := self.history.noting self.transport.written.length outcome })

/-- Call an h2 method in the connection's current state. -/
def callH2 (method : H2 κ → κ → H2Call κ α) : SessionM κ δ α := onConnection do
  let connection ← get
  H2Adapter.call packages.hpack (method packages.h2 connection.core)

/-- `transport.read()` -/
def transportRead : SessionM κ δ Bytes := fun self =>
  match self.transport.reads with
  | [] => (.error (.connection "Connection closed"), self)
  | outcome :: reads => (outcome, { self with transport := { self.transport with reads } })

/-- One write ends as the script says, given the frames whose octets it is called with. -/
def handOver (outcome : WriteOutcome) (frames : List WireFrame) : SessionM κ δ Unit := fun self =>
  let handedOver := { self.transport with written := self.transport.written ++ [frames] }
  match outcome with
  | .sent => (.ok (), { self with transport := handedOver })
  | .sentThenRaised raised => (.error raised, { self with transport := handedOver })
  | .refused raised => (.error raised, self)

/-- `transport.write(...)` -/
def transportWrite (frames : List WireFrame) : SessionM κ δ Unit := fun self =>
  handOver (self.transport.writes.headD .sent) frames { self with
    transport := { self.transport with writes := self.transport.writes.tail } }

/-- `transport.write(...)` while a protocol error is handled. -/
def transportReject (frames : List WireFrame) : SessionM κ δ Unit := fun self =>
  let outcome := self.transport.rejections.headD .sent
  handOver outcome frames { self with
    transport := { self.transport with
      rejections := self.transport.rejections.tail
      rejected := self.transport.rejected ++ [outcome] } }

/-- `asyncio.sleep(0)`, where the task may be cancelled. -/
def pause : SessionM κ δ Unit := fun self =>
  let self' := { self with transport := { self.transport with pauses := self.transport.pauses.tail } }
  match self.transport.pauses.headD none with
  | none => (.ok (), self')
  | some raised => (.error raised, self')

/-- Write out what the connection has queued, if anything. -/
def flush : SessionM κ δ Unit := do
  let data ← onConnection H2Adapter.dataToSend
  runWhen (data ≠ []) (transportWrite data)

/-- Send at most one GOAWAY; never replace a protocol failure with NO_ERROR. -/
def close (errorCode : Nat) : SessionM κ δ Unit := do
  let self ← get
  runWhen (¬ self.closed) do
    callH2 packages fun h2 core =>
      h2.closeConnection core errorCode (some (self.capture.streamId.getD 0))
    modify fun self => { self with closed := true }
  flush

/-- Note that a protocol error came up outside the library. -/
def recordError : SessionM κ δ Unit :=
  modify fun self => { self with
    history := { self.history with
      errors := self.history.errors ++ [self.transport.written.length] } }

/-- Close with an error code, then raise it. -/
def fail (message : String) (errorCode : Nat) : SessionM κ δ α := do
  recordError
  close packages errorCode
  throw (.protocolError message errorCode)

/-- Fail when the condition holds. -/
def failIf (condition : Prop) [Decidable condition] (message : String) (errorCode : Nat) :
    SessionM κ δ Unit :=
  runWhen condition (fail packages message errorCode)

def checkCancelled : SessionM κ δ Unit := do
  let self ← get
  raiseIf self.cancelled (.connection "HTTP/2 request stream was reset")
  raiseIf self.closed (.connection "HTTP/2 connection is closed")

/-- Drop unknown identifiers and table sizes that change nothing; count the effective ones. -/
def filterSettings : List (Nat × Nat) → (tableSize : Nat) → List (Nat × Nat) × Nat
  | [], _ => ([], 0)
  | (identifier, value) :: rest, tableSize =>
    if identifier ∉ supportedSettings then filterSettings rest tableSize
    else if identifier = SettingsIdentifier.headerTableSize then
      -- A no-op assignment would clear hpack's resized flag and suppress queued updates.
      if value = tableSize then filterSettings rest tableSize
      else
        match filterSettings rest value with
        | (working, changes) => ((identifier, value) :: working, changes + 1)
    else
      match filterSettings rest tableSize with
      | (working, changes) => ((identifier, value) :: working, changes)

/-- Hand the connection one SETTINGS frame built from these items. -/
def receiveSettings (items : Dict Nat Nat) : SessionM κ δ Unit := do
  let frame ← fromExcept (liftBuilder (HTTP2FrameBuilder.buildSettingsFrame items false))
  modify fun self => { self with
    history := { self.history with applied := self.history.applied ++ [items] } }
  let _ ← onConnection (H2Adapter.receiveData packages frame)

/-- Replay entries one at a time, keeping only the acknowledgment of the last one. -/
def replaySettings : List (Nat × Nat) → (index : Nat) → SessionM κ δ Unit
  | [], _ => pure ()
  | [entry], _ => receiveSettings packages [entry]
  | entry :: rest, index => do
    receiveSettings packages [entry]
    let acknowledgment ← onConnection H2Adapter.dataToSend
    raiseIf (.ok (serializeAll acknowledgment) ≠ HTTP2FrameBuilder.buildSettingsFrame [] true)
      (.other "Unexpected response while applying SETTINGS")
    runWhen ((index + 1) % settingsBatchSize = 0) pause
    replaySettings rest (index + 1)

/-- Apply the entries of one SETTINGS frame to the connection in wire order. -/
def applySettings (entries : List (Nat × Nat)) : SessionM κ δ Unit := do
  let self ← get
  let (working, tableChanges) :=
    filterSettings entries (packages.h2.remoteHeaderTableSize self.connection.core)
  if self.connection.headerTableSizeChanges + tableChanges > maxHeaderTableSizeChanges then
    callH2 packages fun h2 core => h2.closeConnection core ErrorCode.enhanceYourCalm.code none
    recordError
    throw (.protocolError "HTTP/2 header table update limit exceeded"
      ErrorCode.enhanceYourCalm.code)
  else
    onConnection (modify fun connection =>
      { connection with
        headerTableSizeChanges := connection.headerTableSizeChanges + tableChanges })
    if working.length = (Dict.ofItems working).length then
      receiveSettings packages (Dict.ofItems working)
    else
      replaySettings packages working 0

/-- Count distinct idle targets together with the active streams. -/
def checkPriorityLimit : SessionM κ δ Unit := do
  let opened ← onConnection fun connection =>
    match packages.h2.openInboundStreams connection.core with
    | (opened, core) => (.ok opened, { connection with core })
  let self ← get
  failIf packages
    (self.prioritizedIdleStreams.length + opened >
      packages.h2.maxConcurrentStreams self.connection.core)
    "PRIORITY_UPDATE stream limit exceeded" ErrorCode.protocolError.code

/-- Check the fields of an event, closing the connection over a protocol error. -/
def validateEvent (headers : Option (List Field)) (trailers : Bool) :
    SessionM κ δ (List Field) :=
  match headers with
  | none => throw (.other "'NoneType' object is not iterable")
  | some headers =>
    match validateFields packages headers trailers with
    | .ok () => pure headers
    | .error (.protocolError message _) => fail packages message ErrorCode.protocolError.code
    | .error raised => throw raised

/-- Whether any expectation is one the server does not know. -/
def unknownExpectation (expectations : List Text) : Bool :=
  expectations.any fun value => value ≠ "100-continue".toList

/-- The Expect members of a request; a list that does not parse counts as an unknown one. -/
def requestExpectations (headers : List Field) : List Text :=
  match parseExpectations (fieldValues headers (ascii "expect")) with
  | .ok expectations => expectations
  | .error _ => ["invalid expectation".toList]

/-- Take the declared body length from the last Content-Length field. -/
def recordExpectedLength (values : Dict Bytes Bytes) : SessionM κ δ Unit :=
  match values.get? (ascii "content-length") with
  | none => pure ()
  | some contentLength => do
    let expected := boundedContentLength contentLength
    modify fun self => { self with expectedLength := some expected }
    failIf packages (expected > maxRequestBody) "HTTP/2 request body limit exceeded"
      ErrorCode.enhanceYourCalm.code

/-- Capture the first request and decide whether its body is waited for. -/
def acceptRequest (streamId : Nat) (headers : List Field) (streamEnded : Bool) :
    SessionM κ δ Unit := do
  modify fun self =>
    let capture := { self.capture with streamId := some streamId, headers := some headers }
    { self with
      capture
      history := { self.history with accepted := self.history.accepted ++ [capture] } }
  let values := Dict.ofItems headers
  recordExpectedLength packages values
  let expectations := requestExpectations headers
  if unknownExpectation expectations then
    modify fun self => { self with
      capture := { self.capture with expectationFailed := true }, requestReady := true }
  else
    match values.get? (ascii ":method") with
    | none => throw (.other "KeyError: b':method'")
    | some method =>
      if method = ascii "CONNECT" then modify fun self => { self with requestReady := true }
      else
        runWhen (expectations ≠ [] ∧ ¬ streamEnded)
          (callH2 packages fun h2 core =>
            h2.sendHeaders core streamId [(ascii ":status", ascii "100")] false)

/-- A request opens its stream, which also closes the idle streams below it. -/
def processRequest (streamId : Nat) (headers : Option (List Field)) (streamEnded : Bool) :
    SessionM κ δ Unit := do
  modify fun self => { self with
    prioritizedIdleStreams := self.prioritizedIdleStreams.filter (streamId < ·) }
  let self ← get
  if self.capture.streamId.isSome then
    callH2 packages fun h2 core => h2.resetStream core streamId ErrorCode.refusedStream.code
  else
    checkPriorityLimit packages
    let fields ← validateEvent packages headers false
    acceptRequest packages streamId fields streamEnded

def processTrailers (streamId : Nat) (headers : Option (List Field)) : SessionM κ δ Unit := do
  let fields ← validateEvent packages headers true
  let self ← get
  runWhen (self.capture.streamId = some streamId)
    (modify fun self => { self with capture := { self.capture with trailers := fields } })

def processData (streamId : Nat) (data : Bytes) (flowControlledLength : Nat) :
    SessionM κ δ Unit := do
  let self ← get
  runWhen (self.capture.streamId = some streamId) do
    modify fun self => { self with requestBytes := self.requestBytes + data.length }
    let self ← get
    failIf packages (self.requestBytes > maxRequestBody) "HTTP/2 request body limit exceeded"
      ErrorCode.enhanceYourCalm.code
  callH2 packages fun h2 core => h2.acknowledgeReceivedData core flowControlledLength streamId

/-- The original declaration is compared here, since h2 forgets it when it decodes trailers. -/
def processEnd (streamId : Nat) : SessionM κ δ Unit := do
  let self ← get
  runWhen (self.capture.streamId = some streamId) do
    failIf packages (self.expectedLength.isSome ∧ self.expectedLength ≠ some self.requestBytes)
      "HTTP/2 Content-Length does not match request body" ErrorCode.protocolError.code
    modify fun self => { self with requestReady := true }

def processReset (streamId : Nat) : SessionM κ δ Unit := do
  let self ← get
  runWhen (self.capture.streamId = some streamId)
    (modify fun self => { self with cancelled := true })

def processEvent : Event → SessionM κ δ Unit
  | .requestReceived streamId headers streamEnded =>
    processRequest packages streamId headers streamEnded
  | .trailersReceived streamId headers => processTrailers packages streamId headers
  | .dataReceived streamId data flowControlledLength =>
    processData packages streamId data flowControlledLength
  | .streamEnded streamId => processEnd packages streamId
  | .streamReset streamId => processReset streamId
  | .other => pure ()

def processEvents : List Event → SessionM κ δ Unit
  | [] => pure ()
  | event :: rest => do
    processEvent packages event
    processEvents rest

/-- The first frame must be the client's SETTINGS. -/
def checkFirstFrame (frame : ParsedFrame) : SessionM κ δ Unit := do
  let self ← get
  runWhen self.firstFrame do
    failIf packages (frame.header.kind ≠ some .settings ∨ frame.header.has FrameFlags.ack)
      "First HTTP/2 frame must be client SETTINGS" ErrorCode.protocolError.code
    modify fun self => { self with firstFrame := false }
    match frame.payload with
    | .settings payload =>
      modify fun self => { self with
        capture := { self.capture with initialSettings := some payload.entries } }
    | _ => pure ()

/-- An open header block must be continued on its stream before anything else. -/
def checkContinuation (frame : ParsedFrame) : SessionM κ δ Unit := do
  let self ← get
  failIf packages
    (∃ stream ∈ self.continuationStream,
      frame.header.kind ≠ some .continuation ∨ frame.header.streamId ≠ stream)
    "CONTINUATION on the same stream was expected" ErrorCode.protocolError.code

/-- Charge the frame to the header block it belongs to. -/
def countHeaderBlock (frame : ParsedFrame) : SessionM κ δ Unit :=
  runWhen (frame.header.kind = some .headers ∨ frame.header.kind = some .continuation) do
    modify fun self => { self with
      headerBlockBytes := self.headerBlockBytes + frame.header.length }
    let self ← get
    failIf packages (self.headerBlockBytes > maxHeaderListSize)
      "HTTP/2 header block limit exceeded" ErrorCode.enhanceYourCalm.code
    if frame.header.has FrameFlags.endHeaders then
      modify fun self => { self with continuationStream := none, headerBlockBytes := 0 }
    else
      modify fun self => { self with continuationStream := some frame.header.streamId }

/-- The text and code of a payload that did not parse, if its text is not empty. -/
def parseFault : Payload → Option (String × Nat)
  | .unknown payload =>
    match payload.parseError with
    | some message => if message = "" then none else some (message, payload.errorCode.getD 0)
    | none => none
  | _ => none

def rejectMalformed (frame : ParsedFrame) : SessionM κ δ Unit :=
  match parseFault frame.payload with
  | some (message, code) => fail packages message code
  | none => pure ()

/-- h2 ignores resets of idle streams, which are connection errors. -/
def checkReset (frame : ParsedFrame) : SessionM κ δ Unit :=
  runWhen (frame.header.kind = some .rstStream) do
    let self ← get
    let highest :=
      if frame.header.streamId % 2 = 1 then
        packages.h2.highestInboundStreamId self.connection.core
      else packages.h2.highestOutboundStreamId self.connection.core
    failIf packages (frame.header.streamId > highest) "RST_STREAM refers to an idle stream"
      ErrorCode.protocolError.code

/-- Remember an idle priority target, and count targets that are not closed. -/
def processPriorityUpdate (streamId : Nat) : SessionM κ δ Unit := do
  failIf packages (streamId % 2 = 0) "PRIORITY_UPDATE refers to an idle push stream"
    ErrorCode.protocolError.code
  let self ← get
  if streamId > packages.h2.highestInboundStreamId self.connection.core then
    modify fun self => { self with
      prioritizedIdleStreams := self.prioritizedIdleStreams.insert streamId }
    checkPriorityLimit packages
  else
    runWhen (packages.h2.streamClosed self.connection.core streamId = some false)
      (checkPriorityLimit packages)

/-- Reading a field that the payload does not have. -/
def missingAttribute : Exn := .other "AttributeError"

/-- The octets h2 is shown: a prioritized HEADERS frame loses its priority and padding. -/
def wireForH2 (frame : ParsedFrame) (wire : Bytes) : Except Exn Bytes :=
  if frame.header.kind = some .headers ∧ frame.header.has FrameFlags.priority then
    match frame.payload with
    | .headers payload =>
      liftBuilder (HTTP2FrameBuilder.buildHeadersFrame frame.header.streamId payload.headerBlock
        payload.endStream payload.endHeaders)
    | _ => .error missingAttribute
  else
    .ok wire

/-- Note what is about to be passed to the connection. -/
def recordHanded (item : Handed) : SessionM κ δ Unit :=
  modify fun self => { self with
    history := { self.history with handed := self.history.handed ++ [item] } }

/-- Pass octets to the connection and handle the events it answers with. -/
def receiveWire (wire : Bytes) : SessionM κ δ Unit := do
  recordHanded (.wire wire)
  let events ← onConnection (H2Adapter.receiveData packages wire)
  processEvents packages events

/-- Let the connection apply the frame's settings, or receive the frame and handle its events. -/
def deliver (frame : ParsedFrame) (wire : Bytes) : SessionM κ δ Unit :=
  if frame.header.kind = some .settings then
    match frame.payload with
    | .settings payload =>
      if payload.ack then receiveWire packages wire
      else do
        recordHanded (.settings payload.entries)
        applySettings packages payload.entries
    | _ => throw missingAttribute
  else
    receiveWire packages wire

/-- The queued GOAWAY of a protocol error is sent before the error goes on. -/
def handleProtocolError (raised : Exn) : SessionM κ δ Unit :=
  match raised with
  | .protocolError _ _ => do
    let self ← get
    runWhen (¬ self.closed) do
      let pending ← onConnection H2Adapter.dataToSend
      runWhen (pending ≠ []) do
        transportReject pending
        modify fun self => { self with closed := true }
    throw raised
  | _ => throw raised

/-- Whether the frame is a SETTINGS frame that asks for an acknowledgment. -/
def asksForAck (frame : ParsedFrame) : Bool :=
  match frame.payload with
  | .settings payload => frame.header.kind = some .settings && !payload.ack
  | _ => false

/-- Pass the frame on to the connection, send what it queued, and yield after SETTINGS. -/
def deliverFrame (frame : ParsedFrame) (wire : Bytes) : SessionM κ δ Unit := do
  let shown ← fromExcept (wireForH2 frame wire)
  tryCatch (deliver packages frame shown) handleProtocolError
  flush
  runWhen (asksForAck frame) pause

/-- What becomes of a frame whose payload was read. -/
def processParsed (frame : ParsedFrame) (wire : Bytes) : SessionM κ δ Unit := do
  failIf packages (frame.header.kind = some .pushPromise) "Clients must not send PUSH_PROMISE"
    ErrorCode.protocolError.code
  checkReset packages frame
  match frame.header.kind with
  | some .priority => pure ()
  | some .priorityUpdate =>
    match frame.payload with
    | .priorityUpdate payload => processPriorityUpdate packages payload.prioritizedStreamId
    | _ => throw missingAttribute
  | some .goaway =>
    match frame.payload with
    | .goaway payload =>
      runWhen (payload.errorCode ≠ ErrorCode.noError.code)
        (modify fun self => { self with cancelled := true })
    | _ => throw missingAttribute
  | _ => deliverFrame packages frame wire

def processFrame (frame : ParsedFrame) (wire : Bytes) : SessionM κ δ Unit := do
  modify fun self => { self with
    history := { self.history with
      processed := self.history.processed ++ [(frame, wire)]
      idle := self.history.idle && self.connection.outgoing.isEmpty } }
  checkFirstFrame packages frame
  checkContinuation packages frame
  countHeaderBlock packages frame
  -- Server-to-client advertisements are ignored, malformed ones included.
  if frame.header.kind = some .altsvc ∨ frame.header.kind = some .origin then
    pure ()
  else
    rejectMalformed packages frame
    processParsed packages frame wire

/-- Keep a parsed frame, within the limit, and process it. -/
def captureFrame (frame : ParsedFrame) (entriesRead : Nat) (wire : Bytes) : SessionM κ δ Unit := do
  modify fun self => { self with captureEntries := self.captureEntries + entriesRead }
  let self ← get
  failIf packages (self.capture.frames.length ≥ maxCaptureFrames)
    "HTTP/2 frame count limit exceeded" ErrorCode.enhanceYourCalm.code
  modify fun self => { self with
    capture := { self.capture with frames := self.capture.frames ++ [frame] } }
  processFrame packages frame wire

/-- Parse one complete wire frame with what is left of the entry budget, and capture it. -/
def receiveFrame (wire : Bytes) (maximum : Nat) : SessionM κ δ Unit := do
  let self ← get
  let reader := HTTP2FrameReader.create wire maximum false true
    (some ((maxCaptureEntries : Int) - self.captureEntries))
  match HTTP2FrameReader.parseFrame reader with
  | (.error error, _) => fail packages error.message error.code
  | (.ok frame, reader) => captureFrame packages frame reader.entriesRead wire

/--
Take complete frames off the buffer until what is left is not a whole frame.

Every turn removes at least a frame header, so a buffer length of turns covers all of it.
-/
def receiveLoop : Nat → SessionM κ δ Unit
  | 0 => pure ()
  | turns + 1 => do
    let self ← get
    if self.buffer.length < frameHeaderSize then
      pure ()
    else
      let length := Octets.bigEndian (self.buffer.take 3)
      let maximum := packages.h2.maxInboundFrameSize self.connection.core
      failIf packages (length > maximum) "HTTP/2 frame size limit exceeded"
        ErrorCode.frameSizeError.code
      if self.buffer.length < frameHeaderSize + length then
        pure ()
      else
        modify fun self => { self with buffer := self.buffer.drop (frameHeaderSize + length) }
        receiveFrame packages (self.buffer.take (frameHeaderSize + length)) maximum
        receiveLoop turns

def receive (data : Bytes) : SessionM κ δ Unit := do
  raiseIf (data = []) (.connection "HTTP/2 connection closed before completion")
  modify fun self => { self with captureBytes := self.captureBytes + data.length }
  let self ← get
  failIf packages (self.captureBytes > maxCaptureBytes) "HTTP/2 capture limit exceeded"
    ErrorCode.enhanceYourCalm.code
  modify fun self => { self with buffer := self.buffer ++ data }
  let self ← get
  receiveLoop packages self.buffer.length
  flush
  checkCancelled

/-- Send our preface before acknowledging the peer's initial SETTINGS. -/
def initializeSession (incomingData : Bytes) : SessionM κ δ Unit := do
  let self ← get
  raiseIf self.initialized (.other "HTTP/2 session already initialized")
  modify fun self => { self with initialized := true }
  callH2 packages fun h2 core => h2.initiateConnection core
  flush
  failIf packages (¬ http2Preface <+: incomingData) "Invalid HTTP/2 connection preface"
    ErrorCode.protocolError.code
  let _ ← onConnection (H2Adapter.receiveData packages http2Preface)
  let remaining := incomingData.drop http2Preface.length
  runWhen (remaining ≠ []) (receive packages remaining)

/-- Wait for the request; a script of reads bounds the number of turns. -/
def receiveRequestLoop : Nat → SessionM κ δ Unit
  | 0 => throw (.connection "Connection closed")
  | turns + 1 => do
    let self ← get
    if self.requestReady then
      pure ()
    else
      let data ← transportRead
      receive packages data
      receiveRequestLoop turns

def receiveRequest : SessionM κ δ Unit := do
  let self ← get
  receiveRequestLoop packages (self.transport.reads.length + 1)
  checkCancelled

/-- Ask the connection how much may be sent on a stream. -/
def flowControlWindow (streamId : Nat) : SessionM κ δ Int := onConnection fun connection =>
  (packages.h2.localFlowControlWindow connection.core streamId, connection)

/-- Send the rest of the content as the flow-control windows allow. -/
def sendLoop (streamId : Nat) (content : Bytes) : (turns offset : Nat) → SessionM κ δ Unit
  | 0, _ => throw (.connection "Connection closed")
  | turns + 1, offset =>
    if offset < content.length then do
      checkCancelled
      let window ← flowControlWindow packages streamId
      let self ← get
      let available := min window (packages.h2.maxOutboundFrameSize self.connection.core)
      if available ≤ 0 then
        let data ← transportRead
        receive packages data
        sendLoop streamId content turns offset
      else
        let stop := min (offset + available.toNat) content.length
        callH2 packages fun h2 core =>
          h2.sendData core streamId ((content.drop offset).take (stop - offset))
            (stop = content.length)
        flush
        sendLoop streamId content turns stop
    else
      pure ()

def sendResponse (content : Bytes) (headers : Dict Bytes Bytes) (statusCode : Nat) :
    SessionM κ δ Unit := do
  checkCancelled
  let self ← get
  match self.capture.streamId with
  | none => throw (.other "No complete HTTP/2 request")
  | some streamId => do
    raiseIf (¬ self.requestReady) (.other "No complete HTTP/2 request")
    let (content, headers) := prepareResponse content headers statusCode
    let responseHeaders :=
      Dict.update [(ascii ":status", decimalOctets statusCode)] headers
    callH2 packages fun h2 core =>
      h2.sendHeaders core streamId responseHeaders (content = [])
    flush
    let self ← get
    sendLoop packages streamId content (content.length + self.transport.reads.length + 1) 0

end HTTP2Session

end SolveTls
