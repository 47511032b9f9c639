import SolveTls.Http2.Frames

/-! The frame format as RFC 9113 and its extensions lay it out, independent of any reader. -/

namespace SolveTls

open Octets

/-- The header fields held by the first nine octets of a frame. -/
def headerOf (wire : Bytes) : FrameHeader where
  length := bigEndian (wire.take 3)
  type := bigEndian ((wire.drop 3).take 1)
  flags := bigEndian ((wire.drop 4).take 1)
  -- The top bit of the last four octets is reserved and ignored.
  streamId := bigEndian ((wire.drop 5).take 4) % 2 ^ 31

/-- Exactly one frame: nine header octets and as many more as its length field says. -/
def IsWireFrame (wire : Bytes) : Prop :=
  frameHeaderSize ≤ wire.length ∧ wire.length = frameHeaderSize + (headerOf wire).length

instance (wire : Bytes) : Decidable (IsWireFrame wire) := inferInstanceAs (Decidable (_ ∧ _))

/-- The octets that the padding envelope takes away from a payload. -/
def padRoom (header : FrameHeader) (body : Bytes) : Nat :=
  if header.has FrameFlags.padded then 1 + (body.headD 0).toNat else 0

/-- A SETTINGS parameter inside the range its identifier allows. -/
def SettingInRange (entry : Nat × Nat) : Prop :=
  (entry.1 = SettingsIdentifier.enablePush → entry.2 = 0 ∨ entry.2 = 1) ∧
  (entry.1 = SettingsIdentifier.initialWindowSize → entry.2 ≤ 2 ^ 31 - 1) ∧
  (entry.1 = SettingsIdentifier.maxFrameSize → 16384 ≤ entry.2 ∧ entry.2 ≤ 16777215)

instance (entry : Nat × Nat) : Decidable (SettingInRange entry) :=
  inferInstanceAs (Decidable (_ ∧ _ ∧ _))

/-- The parameters of a SETTINGS payload, six octets each. -/
def settingsEntries : Bytes → List (Nat × Nat)
  | a :: b :: c :: d :: e :: f :: rest =>
    (bigEndian [a, b], bigEndian [c, d, e, f]) :: settingsEntries rest
  | _ => []

/-- A list of strings, each behind its 16-bit length. -/
def prefixedStrings (members : List Bytes) : Bytes :=
  members.flatMap fun origin => toBigEndian 2 origin.length ++ origin

/-- The frames that have a meaning, type by type. -/
def WellFormed (header : FrameHeader) (body : Bytes) : Prop :=
  match header.kind with
  | some .data => header.streamId ≠ 0 ∧ padRoom header body ≤ header.length
  | some .headers =>
    header.streamId ≠ 0 ∧
      padRoom header body + (if header.has FrameFlags.priority then 5 else 0) ≤ header.length
  | some .priority => header.length = 5 ∧ header.streamId ≠ 0
  | some .rstStream => header.length = 4 ∧ header.streamId ≠ 0
  | some .settings =>
    header.streamId = 0 ∧
      if header.has FrameFlags.ack then header.length = 0
      else 6 ∣ header.length ∧ ∀ entry ∈ settingsEntries body, SettingInRange entry
  | some .pushPromise =>
    header.streamId ≠ 0 ∧ padRoom header body + 4 ≤ header.length ∧
      bigEndian ((body.drop (if header.has FrameFlags.padded then 1 else 0)).take 4) % 2 ^ 31 ≠ 0
  | some .ping => header.streamId = 0 ∧ header.length = 8
  | some .goaway => header.streamId = 0 ∧ 8 ≤ header.length
  | some .windowUpdate => header.length = 4 ∧ bigEndian body % 2 ^ 31 ≠ 0
  | some .continuation => header.streamId ≠ 0
  | some .altsvc => 2 ≤ header.length ∧ bigEndian (body.take 2) ≤ header.length - 2
  | some .origin =>
    header.streamId = 0 ∧
      ∃ members : List Bytes, (∀ origin ∈ members, origin.length < 2 ^ 16) ∧
        body = prefixedStrings members
  | some .priorityUpdate =>
    header.streamId = 0 ∧ 4 ≤ header.length ∧ bigEndian (body.take 4) % 2 ^ 31 ≠ 0
  | none => True

/-- A payload wrapped in an optional pad length octet and as much padding. -/
inductive Padded (header : FrameHeader) : Bytes → Bytes → Prop where
  | plain {content : Bytes} (unflagged : header.has FrameFlags.padded = false) :
    Padded header content content
  | wrapped {padLength : UInt8} {content padding : Bytes}
    (flagged : header.has FrameFlags.padded = true)
    (exact : padding.length = padLength.toNat) :
    Padded header (padLength :: (content ++ padding)) content

/-- The octets of a stream dependency, and what they say. -/
def priorityOf (dependency : Bytes) (weight : UInt8) : PriorityInfo where
  exclusive := 2 ^ 31 ≤ bigEndian dependency
  dependency := bigEndian dependency % 2 ^ 31
  weight := weight.toNat + 1

/-- What the octets of a payload stand for, as the concatenation of its fields. -/
inductive Encodes (header : FrameHeader) : Bytes → Payload → Prop where
  | data {body content : Bytes} (kind : header.kind = some .data)
    (framed : Padded header body content) :
    Encodes header body (.data {
      data := content
      endStream := header.has FrameFlags.endStream
      padded := header.has FrameFlags.padded })
  | headers {body block : Bytes} (kind : header.kind = some .headers)
    (unprioritized : header.has FrameFlags.priority = false) (framed : Padded header body block) :
    Encodes header body (.headers {
      headerBlock := block
      priority := none
      endStream := header.has FrameFlags.endStream
      endHeaders := header.has FrameFlags.endHeaders
      padded := header.has FrameFlags.padded })
  | prioritizedHeaders {body dependency block : Bytes} {weight : UInt8}
    (kind : header.kind = some .headers) (prioritized : header.has FrameFlags.priority = true)
    (width : dependency.length = 4)
    (framed : Padded header body (dependency ++ weight :: block)) :
    Encodes header body (.headers {
      headerBlock := block
      priority := some (priorityOf dependency weight)
      endStream := header.has FrameFlags.endStream
      endHeaders := header.has FrameFlags.endHeaders
      padded := header.has FrameFlags.padded })
  | priority {dependency : Bytes} {weight : UInt8} (kind : header.kind = some .priority)
    (width : dependency.length = 4) :
    Encodes header (dependency ++ [weight]) (.priority (priorityOf dependency weight))
  | rstStream {body : Bytes} (kind : header.kind = some .rstStream) :
    Encodes header body (.rstStream { errorCode := bigEndian body })
  | settingsAck (kind : header.kind = some .settings) (flagged : header.has FrameFlags.ack = true) :
    Encodes header [] (.settings { ack := true })
  | settings {entries : List (Nat × Nat)} (kind : header.kind = some .settings)
    (unflagged : header.has FrameFlags.ack = false)
    (ranges : ∀ entry ∈ entries, entry.1 < 2 ^ 16 ∧ entry.2 < 2 ^ 32) :
    Encodes header (HTTP2FrameBuilder.settingsBytes entries) (.settings {
      settings := some (Dict.ofItems entries)
      entries })
  | pushPromise {body promised block : Bytes} (kind : header.kind = some .pushPromise)
    (width : promised.length = 4) (framed : Padded header body (promised ++ block)) :
    Encodes header body (.pushPromise {
      promisedStreamId := bigEndian promised % 2 ^ 31
      headerBlock := block
      endHeaders := header.has FrameFlags.endHeaders
      padded := header.has FrameFlags.padded })
  | ping {body : Bytes} (kind : header.kind = some .ping) :
    Encodes header body (.ping { data := body, ack := header.has FrameFlags.ack })
  | goaway {last code debug : Bytes} (kind : header.kind = some .goaway)
    (lastWidth : last.length = 4) (codeWidth : code.length = 4) :
    Encodes header (last ++ code ++ debug) (.goaway {
      lastStreamId := bigEndian last % 2 ^ 31
      errorCode := bigEndian code
      debugData := debug })
  | windowUpdate {body : Bytes} (kind : header.kind = some .windowUpdate) :
    Encodes header body (.windowUpdate { increment := bigEndian body % 2 ^ 31 })
  | continuation {body : Bytes} (kind : header.kind = some .continuation) :
    Encodes header body (.continuation {
      headerBlock := body
      endHeaders := header.has FrameFlags.endHeaders })
  | altsvc {origin value : Bytes} (kind : header.kind = some .altsvc)
    (fits : origin.length < 2 ^ 16) :
    Encodes header (toBigEndian 2 origin.length ++ origin ++ value) (.altsvc {
      origin
      fieldValue := value })
  | origin {members : List Bytes} (kind : header.kind = some .origin)
    (fit : ∀ origin ∈ members, origin.length < 2 ^ 16) :
    Encodes header (prefixedStrings members) (.origin { origins := members })
  | priorityUpdate {target value : Bytes} (kind : header.kind = some .priorityUpdate)
    (width : target.length = 4) :
    Encodes header (target ++ value) (.priorityUpdate {
      prioritizedStreamId := bigEndian target % 2 ^ 31
      priorityFieldValue := value })
  | unknown {body : Bytes} (kind : header.kind = none) :
    Encodes header body (.unknown { unknownType := header.type, rawPayload := body })

/-- The structured entries a payload adds to the report. -/
def Payload.entryCount : Payload → Nat
  | .settings payload => payload.entries.length
  | .origin payload => payload.origins.length
  | _ => 0

/-- How many complete length-prefixed strings stand at the front of a payload. -/
def completeMembers : Nat → Bytes → Nat
  | turns + 1, high :: low :: rest =>
    if bigEndian [high, low] ≤ rest.length then
      completeMembers turns (rest.drop (bigEndian [high, low])) + 1
    else 0
  | _, _ => 0

/-- The entries a payload is charged for, whether or not it turns out to be well-formed. -/
def reservedEntries (header : FrameHeader) (body : Bytes) : Nat :=
  match header.kind with
  | some .settings =>
    if header.streamId = 0 ∧ header.has FrameFlags.ack = false ∧ 6 ∣ header.length then
      header.length / 6
    else 0
  | some .origin => if header.streamId = 0 then completeMembers header.length body else 0
  | _ => 0

/-- Why a payload was kept as bytes, if it did not parse. -/
def Payload.parseError : Payload → Option String
  | .unknown payload => payload.parseError
  | _ => none

/-- A frame read back from its octets: decoded if it has a meaning, kept as it came otherwise. -/
structure Decodes (wire : Bytes) (frame : ParsedFrame) : Prop where
  header : frame.header = headerOf wire
  raw : frame.raw = wire
  accepted : frame.payload.parseError = none ↔
    WellFormed (headerOf wire) (wire.drop frameHeaderSize)
  faithful : WellFormed (headerOf wire) (wire.drop frameHeaderSize) →
    Encodes (headerOf wire) (wire.drop frameHeaderSize) frame.payload
  kept : ¬ WellFormed (headerOf wire) (wire.drop frameHeaderSize) →
    ∃ (message : String) (code : Nat), message ≠ "" ∧ code ≠ ErrorCode.noError.code ∧
      frame.payload = .unknown {
        unknownType := (headerOf wire).type
        rawPayload := wire.drop frameHeaderSize
        parseError := some message
        errorCode := some code }

end SolveTls
