import SolveTls.Base.Dict
import SolveTls.Base.Fallible
import SolveTls.Base.Octets

/-! HTTP/2 frames: their payloads, the reader that captures them and the builder. -/

namespace SolveTls

open Octets Fallible

/-- The frame types the reader knows by name. -/
inductive FrameType where
  | data
  | headers
  | priority
  | rstStream
  | settings
  | pushPromise
  | ping
  | goaway
  | windowUpdate
  | continuation
  | altsvc
  | origin
  | priorityUpdate
  deriving DecidableEq, Repr

/-- The type octet of a known frame type. -/
def FrameType.code : FrameType → Nat
  | .data => 0x00
  | .headers => 0x01
  | .priority => 0x02
  | .rstStream => 0x03
  | .settings => 0x04
  | .pushPromise => 0x05
  | .ping => 0x06
  | .goaway => 0x07
  | .windowUpdate => 0x08
  | .continuation => 0x09
  | .altsvc => 0x0A
  | .origin => 0x0C
  | .priorityUpdate => 0x10

/-- The known frame type of a type octet, if it has one. -/
def FrameType.ofCode : Nat → Option FrameType
  | 0x00 => some .data
  | 0x01 => some .headers
  | 0x02 => some .priority
  | 0x03 => some .rstStream
  | 0x04 => some .settings
  | 0x05 => some .pushPromise
  | 0x06 => some .ping
  | 0x07 => some .goaway
  | 0x08 => some .windowUpdate
  | 0x09 => some .continuation
  | 0x0A => some .altsvc
  | 0x0C => some .origin
  | 0x10 => some .priorityUpdate
  | _ => none

namespace FrameFlags

def endStream : Nat := 0x01
def endHeaders : Nat := 0x04
def padded : Nat := 0x08
def priority : Nat := 0x20
def ack : Nat := 0x01

end FrameFlags

/-- The error codes of RST_STREAM and GOAWAY frames. -/
inductive ErrorCode where
  | noError
  | protocolError
  | internalError
  | flowControlError
  | settingsTimeout
  | streamClosed
  | frameSizeError
  | refusedStream
  | cancel
  | compressionError
  | connectError
  | enhanceYourCalm
  | inadequateSecurity
  | http11Required
  deriving DecidableEq, Repr

/-- The number an error code is sent as. -/
def ErrorCode.code : ErrorCode → Nat
  | .noError => 0x00
  | .protocolError => 0x01
  | .internalError => 0x02
  | .flowControlError => 0x03
  | .settingsTimeout => 0x04
  | .streamClosed => 0x05
  | .frameSizeError => 0x06
  | .refusedStream => 0x07
  | .cancel => 0x08
  | .compressionError => 0x09
  | .connectError => 0x0A
  | .enhanceYourCalm => 0x0B
  | .inadequateSecurity => 0x0C
  | .http11Required => 0x0D

namespace SettingsIdentifier

def headerTableSize : Nat := 0x01
def enablePush : Nat := 0x02
def maxConcurrentStreams : Nat := 0x03
def initialWindowSize : Nat := 0x04
def maxFrameSize : Nat := 0x05
def maxHeaderListSize : Nat := 0x06
def enableConnectProtocol : Nat := 0x08
def noRfc7540Priorities : Nat := 0x09

end SettingsIdentifier

def frameHeaderSize : Nat := 9
def defaultMaxFrameSize : Nat := 16384
def maxAllowedFrameSize : Nat := 16777215
def maxStreamId : Nat := 0x7FFFFFFF
def reservedBitMask : Nat := 0x80000000
def pingPayloadSize : Nat := 8
def priorityPayloadSize : Nat := 5
def rstStreamPayloadSize : Nat := 4
def windowUpdatePayloadSize : Nat := 4
def settingsEntrySize : Nat := 6

/-- The fields of the nine-octet frame header. -/
structure FrameHeader where
  length : Nat
  type : Nat
  flags : Nat
  streamId : Nat
  deriving DecidableEq, Repr

/-- The known type of a frame, read from its header. -/
def FrameHeader.kind (header : FrameHeader) : Option FrameType := FrameType.ofCode header.type

/-- Whether a flag bit is set in the header. -/
def FrameHeader.has (header : FrameHeader) (flag : Nat) : Bool := header.flags &&& flag != 0

structure DataPayload where
  data : Bytes
  endStream : Bool
  padded : Bool := false
  deriving DecidableEq, Repr

structure PriorityInfo where
  exclusive : Bool
  dependency : Nat
  weight : Nat
  deriving DecidableEq, Repr

structure HeadersPayload where
  headerBlock : Bytes
  priority : Option PriorityInfo
  endStream : Bool
  endHeaders : Bool
  padded : Bool := false
  deriving DecidableEq, Repr

structure RstStreamPayload where
  errorCode : Nat
  deriving DecidableEq, Repr

/-- Effective values alone lose repeated parameters, so the entries are kept in wire order too. -/
structure SettingsPayload where
  ack : Bool := false
  settings : Option (Dict Nat Nat) := none
  entries : List (Nat × Nat) := []
  deriving DecidableEq, Repr

structure PushPromisePayload where
  promisedStreamId : Nat
  headerBlock : Bytes
  endHeaders : Bool
  padded : Bool := false
  deriving DecidableEq, Repr

structure PingPayload where
  data : Bytes
  ack : Bool := false
  deriving DecidableEq, Repr

structure GoawayPayload where
  lastStreamId : Nat
  errorCode : Nat
  debugData : Bytes
  deriving DecidableEq, Repr

structure WindowUpdatePayload where
  increment : Nat
  deriving DecidableEq, Repr

structure ContinuationPayload where
  headerBlock : Bytes
  endHeaders : Bool
  deriving DecidableEq, Repr

structure AltSvcPayload where
  origin : Bytes
  fieldValue : Bytes
  deriving DecidableEq, Repr

structure OriginPayload where
  origins : List Bytes
  deriving DecidableEq, Repr

structure PriorityUpdatePayload where
  prioritizedStreamId : Nat
  priorityFieldValue : Bytes
  deriving DecidableEq, Repr

/-- A payload kept as bytes, because its type is unknown or because it did not parse. -/
structure UnknownPayload where
  unknownType : Nat
  rawPayload : Bytes
  parseError : Option String := none
  errorCode : Option Nat := none
  deriving DecidableEq, Repr

inductive Payload where
  | data (payload : DataPayload)
  | headers (payload : HeadersPayload)
  | priority (payload : PriorityInfo)
  | rstStream (payload : RstStreamPayload)
  | settings (payload : SettingsPayload)
  | pushPromise (payload : PushPromisePayload)
  | ping (payload : PingPayload)
  | goaway (payload : GoawayPayload)
  | windowUpdate (payload : WindowUpdatePayload)
  | continuation (payload : ContinuationPayload)
  | altsvc (payload : AltSvcPayload)
  | origin (payload : OriginPayload)
  | priorityUpdate (payload : PriorityUpdatePayload)
  | unknown (payload : UnknownPayload)
  deriving DecidableEq, Repr

structure ParsedFrame where
  header : FrameHeader
  payload : Payload
  raw : Bytes := []
  deriving DecidableEq, Repr

structure HTTP2FrameParsingError where
  message : String
  code : Nat := ErrorCode.protocolError.code
  deriving DecidableEq, Repr

/-- The reader's attributes: the buffer, a position in it and the limits it was given. -/
structure HTTP2FrameReader where
  data : Bytes
  pos : Nat := 0
  maxFrameSize : Nat
  strictPadding : Bool
  forensic : Bool
  payloadEnd : Option Nat := none
  maxEntries : Option Int
  entriesRead : Nat := 0
  deriving DecidableEq, Repr

/-- A method of the reader. -/
abbrev FrameReader (α : Type) := Fallible HTTP2FrameReader HTTP2FrameParsingError α

namespace HTTP2FrameReader

/-- A reader at the start of its buffer, with the frame size capped by its 24-bit length field. -/
def create (data : Bytes) (maxFrameSize : Nat) (strictPadding forensic : Bool)
    (maxEntries : Option Int) : HTTP2FrameReader where
  data
  maxFrameSize := min maxFrameSize maxAllowedFrameSize
  strictPadding
  forensic
  maxEntries

/-- Count decoded entries before they are kept, within the budget if there is one. -/
def reserveEntries (count : Nat) : FrameReader Unit := do
  let self ← get
  raiseIf (∃ limit ∈ self.maxEntries, limit < (self.entriesRead : Int) + count)
    ⟨"HTTP/2 decoded entry limit exceeded", ErrorCode.enhanceYourCalm.code⟩
  set { self with entriesRead := self.entriesRead + count }

/-- Take bytes of the current payload, or of the whole buffer outside a payload. -/
def read (n : Int) : FrameReader Bytes := do
  let self ← get
  let stop := self.payloadEnd.getD self.data.length
  let available := (stop : Int) - self.pos
  raiseIf (n < 0 ∨ (self.pos : Int) + n > stop)
    ⟨s!"Insufficient data: need {n} bytes, have {available}", ErrorCode.frameSizeError.code⟩
  set { self with pos := self.pos + n.toNat }
  return (self.data.drop self.pos).take n.toNat

def readUint8 : FrameReader Nat := do return bigEndian (← read 1)

def readUint16 : FrameReader Nat := do return bigEndian (← read 2)

def readUint24 : FrameReader Nat := do return bigEndian (← read 3)

def readUint32 : FrameReader Nat := do return bigEndian (← read 4)

/-- The reserved top bit is ignored on receipt, not rejected. -/
def readUint32WithReserved : FrameReader Nat := do return (← readUint32) &&& maxStreamId

def readPriority : FrameReader PriorityInfo := do
  let rawDependency ← readUint32
  let weight ← readUint8
  return {
    exclusive := rawDependency &&& reservedBitMask != 0
    dependency := rawDependency &&& maxStreamId
    weight := weight + 1
  }

def readPaddingLength (header : FrameHeader) : FrameReader Nat :=
  if header.has FrameFlags.padded then do
    let length ← readUint8
    -- The bound is the whole frame length, so later subtractions may still go negative.
    raiseIf (length ≥ header.length) ⟨"Invalid padding length", ErrorCode.protocolError.code⟩
    return length
  else
    return 0

def skipPadding (length : Nat) : FrameReader Unit := do
  let padding ← read length
  let self ← get
  raiseIf (self.strictPadding ∧ padding.any (· ≠ 0))
    ⟨"Padding must be zero", ErrorCode.protocolError.code⟩

def parseData (header : FrameHeader) : FrameReader DataPayload := do
  raiseIf (header.streamId = 0)
    ⟨"DATA frame must have non-zero stream ID", ErrorCode.protocolError.code⟩
  let padLength ← readPaddingLength header
  let dataLength : Int :=
    header.length - (if header.has FrameFlags.padded then 1 else 0) - padLength
  raiseIf (dataLength < 0) ⟨"Invalid data length", ErrorCode.protocolError.code⟩
  let data ← read dataLength
  skipPadding padLength
  return {
    data
    endStream := header.has FrameFlags.endStream
    padded := header.has FrameFlags.padded
  }

def parseHeaders (header : FrameHeader) : FrameReader HeadersPayload := do
  raiseIf (header.streamId = 0)
    ⟨"HEADERS frame must have non-zero stream ID", ErrorCode.protocolError.code⟩
  let padLength ← readPaddingLength header
  let priority ←
    (if header.has FrameFlags.priority then some <$> readPriority else pure none)
  let headerBlockLength : Int :=
    header.length - (if header.has FrameFlags.padded then 1 else 0) -
      (if header.has FrameFlags.priority then 5 else 0) - padLength
  raiseIf (headerBlockLength < 0)
    ⟨"Invalid header block length", ErrorCode.protocolError.code⟩
  let headerBlock ← read headerBlockLength
  skipPadding padLength
  return {
    headerBlock
    priority
    endStream := header.has FrameFlags.endStream
    endHeaders := header.has FrameFlags.endHeaders
    padded := header.has FrameFlags.padded
  }

def parsePriority (header : FrameHeader) : FrameReader PriorityInfo := do
  raiseIf (header.length ≠ priorityPayloadSize)
    ⟨s!"PRIORITY frame must be {priorityPayloadSize} bytes", ErrorCode.frameSizeError.code⟩
  raiseIf (header.streamId = 0)
    ⟨"PRIORITY frame must have non-zero stream ID", ErrorCode.protocolError.code⟩
  readPriority

def parseRstStream (header : FrameHeader) : FrameReader RstStreamPayload := do
  raiseIf (header.length ≠ rstStreamPayloadSize)
    ⟨s!"RST_STREAM frame must be {rstStreamPayloadSize} bytes", ErrorCode.frameSizeError.code⟩
  raiseIf (header.streamId = 0)
    ⟨"RST_STREAM frame must have non-zero stream ID", ErrorCode.protocolError.code⟩
  return { errorCode := ← readUint32 }

/-- Read the remaining SETTINGS entries onto the ones read so far, checking every occurrence. -/
def settingsLoop : Nat → Dict Nat Nat → List (Nat × Nat) → FrameReader SettingsPayload
  | 0, settings, entries => return { settings := some settings, entries }
  | count + 1, settings, entries => do
    let settingId ← readUint16
    let settingValue ← readUint32
    raiseIf (settingId = SettingsIdentifier.enablePush ∧ settingValue ≠ 0 ∧ settingValue ≠ 1)
      ⟨"SETTINGS_ENABLE_PUSH must be 0 or 1", ErrorCode.protocolError.code⟩
    raiseIf (settingId = SettingsIdentifier.initialWindowSize ∧ settingValue > maxStreamId)
      ⟨"SETTINGS_INITIAL_WINDOW_SIZE exceeds maximum", ErrorCode.flowControlError.code⟩
    raiseIf (settingId = SettingsIdentifier.maxFrameSize ∧
        ¬ (defaultMaxFrameSize ≤ settingValue ∧ settingValue ≤ maxAllowedFrameSize))
      ⟨"SETTINGS_MAX_FRAME_SIZE is outside the allowed range", ErrorCode.protocolError.code⟩
    settingsLoop count (settings.set settingId settingValue)
      (entries ++ [(settingId, settingValue)])

def parseSettings (header : FrameHeader) : FrameReader SettingsPayload := do
  raiseIf (header.streamId ≠ 0)
    ⟨"SETTINGS frame must have stream ID = 0", ErrorCode.protocolError.code⟩
  if header.has FrameFlags.ack then do
    raiseIf (header.length ≠ 0)
      ⟨"SETTINGS ACK must have empty payload", ErrorCode.frameSizeError.code⟩
    return { ack := true }
  else do
    raiseIf (header.length % settingsEntrySize ≠ 0)
      ⟨"Invalid SETTINGS payload length", ErrorCode.frameSizeError.code⟩
    reserveEntries (header.length / settingsEntrySize)
    settingsLoop (header.length / settingsEntrySize) [] []

def parsePushPromise (header : FrameHeader) : FrameReader PushPromisePayload := do
  raiseIf (header.streamId = 0)
    ⟨"PUSH_PROMISE frame must have non-zero stream ID", ErrorCode.protocolError.code⟩
  let padLength ← readPaddingLength header
  let promisedStreamId ← readUint32WithReserved
  raiseIf (promisedStreamId = 0)
    ⟨"Promised stream ID must be non-zero", ErrorCode.protocolError.code⟩
  let headerBlockLength : Int :=
    header.length - (if header.has FrameFlags.padded then 1 else 0) - 4 - padLength
  raiseIf (headerBlockLength < 0)
    ⟨"Invalid header block length", ErrorCode.protocolError.code⟩
  let headerBlock ← read headerBlockLength
  skipPadding padLength
  return {
    promisedStreamId
    headerBlock
    endHeaders := header.has FrameFlags.endHeaders
    padded := header.has FrameFlags.padded
  }

def parsePing (header : FrameHeader) : FrameReader PingPayload := do
  raiseIf (header.streamId ≠ 0)
    ⟨"PING frame must have stream ID = 0", ErrorCode.protocolError.code⟩
  raiseIf (header.length ≠ pingPayloadSize)
    ⟨s!"PING frame must be {pingPayloadSize} bytes", ErrorCode.frameSizeError.code⟩
  let data ← read pingPayloadSize
  return { data, ack := header.has FrameFlags.ack }

def parseGoaway (header : FrameHeader) : FrameReader GoawayPayload := do
  raiseIf (header.streamId ≠ 0)
    ⟨"GOAWAY frame must have stream ID = 0", ErrorCode.protocolError.code⟩
  raiseIf (header.length < 8)
    ⟨"GOAWAY frame must be at least 8 bytes", ErrorCode.frameSizeError.code⟩
  let lastStreamId ← readUint32WithReserved
  let errorCode ← readUint32
  let debugDataLength : Int := header.length - 8
  let debugData ← (if debugDataLength > 0 then read debugDataLength else pure [])
  return { lastStreamId, errorCode, debugData }

def parseWindowUpdate (header : FrameHeader) : FrameReader WindowUpdatePayload := do
  raiseIf (header.length ≠ windowUpdatePayloadSize)
    ⟨s!"WINDOW_UPDATE frame must be {windowUpdatePayloadSize} bytes",
      ErrorCode.frameSizeError.code⟩
  let increment ← readUint32WithReserved
  raiseIf (increment = 0)
    ⟨"Window size increment must not be 0", ErrorCode.protocolError.code⟩
  return { increment }

def parseContinuation (header : FrameHeader) : FrameReader ContinuationPayload := do
  raiseIf (header.streamId = 0)
    ⟨"CONTINUATION frame must have non-zero stream ID", ErrorCode.protocolError.code⟩
  let headerBlock ← read header.length
  return { headerBlock, endHeaders := header.has FrameFlags.endHeaders }

def parseAltsvc (header : FrameHeader) : FrameReader AltSvcPayload := do
  raiseIf (header.length < 2) ⟨"ALTSVC frame too short", ErrorCode.protocolError.code⟩
  let originLen ← readUint16
  raiseIf ((originLen : Int) > header.length - 2)
    ⟨"Invalid origin length in ALTSVC", ErrorCode.protocolError.code⟩
  let origin ← read originLen
  let fieldValue ← read (header.length - 2 - originLen)
  return { origin, fieldValue }

/--
Read the remaining ORIGIN members onto the ones read so far.

Every turn takes at least two octets, so a frame length of turns covers the whole payload.
-/
def originLoop (header : FrameHeader) : Nat → Nat → List Bytes → FrameReader OriginPayload
  | 0, _, origins => return { origins }
  | turns + 1, bytesRead, origins =>
    if bytesRead < header.length then do
      raiseIf (bytesRead + 2 > header.length)
        ⟨"Invalid ORIGIN frame format", ErrorCode.protocolError.code⟩
      let originLen ← readUint16
      raiseIf (bytesRead + 2 + originLen > header.length)
        ⟨"Invalid origin length in ORIGIN frame", ErrorCode.protocolError.code⟩
      reserveEntries 1
      let origin ← read originLen
      originLoop header turns (bytesRead + 2 + originLen) (origins ++ [origin])
    else
      return { origins }

def parseOrigin (header : FrameHeader) : FrameReader OriginPayload := do
  raiseIf (header.streamId ≠ 0)
    ⟨"ORIGIN frame must have stream ID = 0", ErrorCode.protocolError.code⟩
  originLoop header header.length 0 []

def parsePriorityUpdate (header : FrameHeader) : FrameReader PriorityUpdatePayload := do
  raiseIf (header.streamId ≠ 0)
    ⟨"PRIORITY_UPDATE frame must have stream ID = 0", ErrorCode.protocolError.code⟩
  raiseIf (header.length < 4)
    ⟨"PRIORITY_UPDATE frame too short", ErrorCode.frameSizeError.code⟩
  let prioritizedStreamId ← readUint32WithReserved
  raiseIf (prioritizedStreamId = 0)
    ⟨"Prioritized stream ID must be non-zero", ErrorCode.protocolError.code⟩
  let priorityFieldValue ← read (header.length - 4)
  return { prioritizedStreamId, priorityFieldValue }

/-- Choose the payload grammar by type; unknown types keep their bytes. -/
def parsePayloadByType (header : FrameHeader) : FrameReader Payload :=
  match header.kind with
  | some .data => Payload.data <$> parseData header
  | some .headers => Payload.headers <$> parseHeaders header
  | some .priority => Payload.priority <$> parsePriority header
  | some .rstStream => Payload.rstStream <$> parseRstStream header
  | some .settings => Payload.settings <$> parseSettings header
  | some .pushPromise => Payload.pushPromise <$> parsePushPromise header
  | some .ping => Payload.ping <$> parsePing header
  | some .goaway => Payload.goaway <$> parseGoaway header
  | some .windowUpdate => Payload.windowUpdate <$> parseWindowUpdate header
  | some .continuation => Payload.continuation <$> parseContinuation header
  | some .altsvc => Payload.altsvc <$> parseAltsvc header
  | some .origin => Payload.origin <$> parseOrigin header
  | some .priorityUpdate => Payload.priorityUpdate <$> parsePriorityUpdate header
  | none => do
    return .unknown { unknownType := header.type, rawPayload := ← read header.length }

/-- The payload of the frame, which must use up exactly the announced length. -/
def parseWholePayload (header : FrameHeader) (payloadStart : Nat) : FrameReader Payload := do
  let payload ← parsePayloadByType header
  let self ← get
  let bytesRead : Int := (self.pos : Int) - payloadStart
  raiseIf (bytesRead ≠ header.length)
    ⟨s!"Payload: expected {header.length} bytes, read {bytesRead}",
      ErrorCode.frameSizeError.code⟩
  return payload

/-- What a malformed payload becomes: its bytes in forensic capture, an error otherwise. -/
def keepMalformed (header : FrameHeader) (payloadStart : Nat) (error : HTTP2FrameParsingError) :
    FrameReader Payload := do
  raiseIf (error.code = ErrorCode.enhanceYourCalm.code) error
  let self ← get
  raiseIf (¬ self.forensic ∧ header.kind ≠ some .altsvc ∧ header.kind ≠ some .origin) error
  set { self with pos := payloadStart + header.length }
  return .unknown {
    unknownType := header.type
    rawPayload := (self.data.drop payloadStart).take header.length
    parseError := some error.message
    errorCode := some error.code
  }

/-- Read the nine header octets and check the announced length against the limits. -/
def parseHeader : FrameReader FrameHeader := do
  let self ← get
  raiseIf (self.data.length < self.pos + frameHeaderSize)
    ⟨"Incomplete frame header", ErrorCode.frameSizeError.code⟩
  let length ← readUint24
  let type ← readUint8
  let flags ← readUint8
  let streamId ← readUint32WithReserved
  let self ← get
  raiseIf (length > self.maxFrameSize)
    ⟨s!"Frame size {length} exceeds maximum {self.maxFrameSize}",
      ErrorCode.frameSizeError.code⟩
  raiseIf (self.data.length < self.pos + length)
    ⟨"Incomplete frame payload", ErrorCode.frameSizeError.code⟩
  return { length, type, flags, streamId }

def parseFrame : FrameReader ParsedFrame := do
  let frameStart := (← get).pos
  let header ← parseHeader
  let payloadStart := (← get).pos
  modify fun self => { self with payloadEnd := some (payloadStart + header.length) }
  let payload ← ensuring
    (tryCatch (parseWholePayload header payloadStart) (keepMalformed header payloadStart))
    (modify fun self => { self with payloadEnd := none })
  let self ← get
  return {
    header
    payload
    raw := (self.data.drop frameStart).take (payloadStart + header.length - frameStart)
  }

end HTTP2FrameReader

/-- What building a frame may raise. -/
inductive BuildError where
  /-- `ValueError` -/
  | value (message : String)
  /-- `struct.error` -/
  | struct (message : String)
  deriving DecidableEq, Repr

namespace HTTP2FrameBuilder

/-- The nine-octet header followed by the payload, as a frame crosses the wire. -/
def frameBytes (type flags streamId : Nat) (payload : Bytes) : Bytes :=
  toBigEndian 3 payload.length ++ toBigEndian 1 type ++ toBigEndian 1 flags ++
    toBigEndian 4 streamId ++ payload

def buildFrame (type flags streamId : Nat) (payload : Bytes) : Except BuildError Bytes :=
  if payload.length > maxAllowedFrameSize then
    .error (.value s!"Frame length exceeds maximum ({maxAllowedFrameSize})")
  else if maxStreamId < streamId then
    .error (.value s!"Stream ID must be between 0 and {maxStreamId}")
  else
    .ok (frameBytes type flags streamId payload)

def buildHeadersFrame (streamId : Nat) (headerBlock : Bytes) (endStream endHeaders : Bool) :
    Except BuildError Bytes :=
  let flags := (if endStream then FrameFlags.endStream else 0) |||
    (if endHeaders then FrameFlags.endHeaders else 0)
  buildFrame FrameType.headers.code flags streamId headerBlock

/-- The payload of a SETTINGS frame: six octets per item, in the order of the dictionary. -/
def settingsBytes (settings : Dict Nat Nat) : Bytes :=
  settings.flatMap fun (settingId, value) => toBigEndian 2 settingId ++ toBigEndian 4 value

/-- `struct.pack("!HI", setting_id, value)` -/
def packSetting (setting : Nat × Nat) : Except BuildError Bytes :=
  if 2 ^ 16 ≤ setting.1 then .error (.struct "'H' format requires 0 <= number <= 65535")
  else if 2 ^ 32 ≤ setting.2 then .error (.struct "'I' format requires 0 <= number <= 4294967295")
  else .ok (toBigEndian 2 setting.1 ++ toBigEndian 4 setting.2)

def buildSettingsFrame (settings : Dict Nat Nat) (ack : Bool) : Except BuildError Bytes := do
  let flags := if ack then FrameFlags.ack else 0
  let entries ← if ack then pure [] else settings.mapM packSetting
  buildFrame FrameType.settings.code flags 0 entries.flatten

end HTTP2FrameBuilder

end SolveTls
