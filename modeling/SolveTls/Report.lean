import SolveTls.Fingerprints

/-! The HTTP/2 part of the report that is sent back to the client. -/

namespace SolveTls

def FrameType.name : FrameType → String
  | .data => "DATA"
  | .headers => "HEADERS"
  | .priority => "PRIORITY"
  | .rstStream => "RST_STREAM"
  | .settings => "SETTINGS"
  | .pushPromise => "PUSH_PROMISE"
  | .ping => "PING"
  | .goaway => "GOAWAY"
  | .windowUpdate => "WINDOW_UPDATE"
  | .continuation => "CONTINUATION"
  | .altsvc => "ALTSVC"
  | .origin => "ORIGIN"
  | .priorityUpdate => "PRIORITY_UPDATE"

/-- The name of a known SETTINGS identifier. -/
def SettingsIdentifier.name (identifier : Nat) : Option String :=
  Dict.get? [
    (headerTableSize, "HEADER_TABLE_SIZE"),
    (enablePush, "ENABLE_PUSH"),
    (maxConcurrentStreams, "MAX_CONCURRENT_STREAMS"),
    (initialWindowSize, "INITIAL_WINDOW_SIZE"),
    (maxFrameSize, "MAX_FRAME_SIZE"),
    (maxHeaderListSize, "MAX_HEADER_LIST_SIZE"),
    (enableConnectProtocol, "ENABLE_CONNECT_PROTOCOL"),
    (noRfc7540Priorities, "NO_RFC7540_PRIORITIES")] identifier

/-- The flags that have a meaning on a frame type, with their names. -/
def frameFlagNames : Option FrameType → List (String × Nat)
  | some .data => [("END_STREAM", FrameFlags.endStream), ("PADDED", FrameFlags.padded)]
  | some .headers => [("END_STREAM", FrameFlags.endStream), ("END_HEADERS", FrameFlags.endHeaders),
      ("PADDED", FrameFlags.padded), ("PRIORITY", FrameFlags.priority)]
  | some .settings => [("ACK", FrameFlags.ack)]
  | some .pushPromise => [("END_HEADERS", FrameFlags.endHeaders), ("PADDED", FrameFlags.padded)]
  | some .ping => [("ACK", FrameFlags.ack)]
  | some .continuation => [("END_HEADERS", FrameFlags.endHeaders)]
  | _ => []

/-- Bytes become hex text. -/
def plainBytes (value : Bytes) : Json := .text (Hex.encode value)

def plainPriority (info : PriorityInfo) : Json := .object [
  ("exclusive", .bool info.exclusive),
  ("dependency", .number info.dependency),
  ("weight", .number info.weight)]

def plainOption {α : Type} (plain : α → Json) : Option α → Json
  | some value => plain value
  | none => .null

/-- The fields of a payload in their order, as JSON values. -/
def plain : Payload → Dict String Json
  | .data payload => [
      ("data", plainBytes payload.data),
      ("end_stream", .bool payload.endStream),
      ("padded", .bool payload.padded)]
  | .headers payload => [
      ("header_block", plainBytes payload.headerBlock),
      ("priority", plainOption plainPriority payload.priority),
      ("end_stream", .bool payload.endStream),
      ("end_headers", .bool payload.endHeaders),
      ("padded", .bool payload.padded)]
  | .priority payload => [
      ("exclusive", .bool payload.exclusive),
      ("dependency", .number payload.dependency),
      ("weight", .number payload.weight)]
  | .rstStream payload => [("error_code", .number payload.errorCode)]
  | .settings payload => [
      ("ack", .bool payload.ack),
      ("settings", plainOption (fun settings => .object (settings.map fun (settingId, value) =>
        (String.ofList (decimalText settingId), .number value))) payload.settings),
      ("entries", .list (payload.entries.map fun (settingId, value) =>
        .list [.number settingId, .number value]))]
  | .pushPromise payload => [
      ("promised_stream_id", .number payload.promisedStreamId),
      ("header_block", plainBytes payload.headerBlock),
      ("end_headers", .bool payload.endHeaders),
      ("padded", .bool payload.padded)]
  | .ping payload => [("data", plainBytes payload.data), ("ack", .bool payload.ack)]
  | .goaway payload => [
      ("last_stream_id", .number payload.lastStreamId),
      ("error_code", .number payload.errorCode),
      ("debug_data", plainBytes payload.debugData)]
  | .windowUpdate payload => [("increment", .number payload.increment)]
  | .continuation payload => [
      ("header_block", plainBytes payload.headerBlock),
      ("end_headers", .bool payload.endHeaders)]
  | .altsvc payload => [
      ("origin", plainBytes payload.origin),
      ("field_value", plainBytes payload.fieldValue)]
  | .origin payload => [("origins", .list (payload.origins.map plainBytes))]
  | .priorityUpdate payload => [
      ("prioritized_stream_id", .number payload.prioritizedStreamId),
      ("priority_field_value", plainBytes payload.priorityFieldValue)]
  | .unknown payload => [
      ("unknown_type", .number payload.unknownType),
      ("raw_payload", plainBytes payload.rawPayload),
      ("parse_error", plainOption (fun message => .text message.toList) payload.parseError),
      ("error_code", plainOption .number payload.errorCode)]

/-- One captured frame; what its header already says is left out of the payload. -/
def frameReport (frame : ParsedFrame) : Dict String Json :=
  let payload := ["end_stream", "end_headers", "padded", "ack"].foldl Dict.pop (plain frame.payload)
  let flagNames := (frameFlagNames frame.header.kind).filter fun (_, flag) => frame.header.has flag
  (describe frame.header.type (frame.header.kind.map FrameType.name)).update [
    ("flags", .number frame.header.flags),
    ("flag_names", .list (flagNames.map fun (name, _) => .text name.toList)),
    ("stream_id", .number frame.header.streamId),
    ("length", .number frame.header.length),
    ("payload", .object payload),
    ("raw", plainBytes frame.raw)]

def settingReport (identifier value : Nat) : Dict String Json :=
  let entry := describe identifier (SettingsIdentifier.name identifier)
  -- Reserved SETTINGS identifiers may differ in their two bytes.
  let entry := if identifier ≤ 0xFFFF ∧ identifier &&& 0x0F0F = 0x0A0A then
      entry.set "grease" (.bool true)
    else entry
  entry.set "setting" (.number value)

/-- A field list, as pairs of texts. -/
def fieldsReport (fields : List Field) : Json :=
  .list (fields.map fun (key, value) => .list [.text (asText key), .text (asText value)])

def http2Report (md5 : Text → Text) (capture : Option HTTP2Capture) : Dict String Json :=
  let report := buildAkamaiFingerprint md5 capture
  match capture with
  | none => report
  | some capture =>
    let report := match capture.initialSettings with
      | some settings => report.set "settings"
          (.list (settings.map fun (settingId, value) => .object (settingReport settingId value)))
      | none => report
    let report := match capture.headers with
      | some headers => report.set "headers" (fieldsReport headers)
      | none => report
    let report := if capture.trailers = [] then report
      else report.set "trailers" (fieldsReport capture.trailers)
    report.set "frames" (.list (capture.frames.map fun frame => .object (frameReport frame)))

end SolveTls
