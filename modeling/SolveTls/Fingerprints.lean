import SolveTls.Http2.Session
import SolveTls.Wire.Naming

/-! The HTTP/2 fingerprint of a capture. -/

namespace SolveTls

/--
Collect the first connection window update and the priorities sent before the request.

Later frames stay in the report, but must not change the fingerprint.
-/
def akamaiLoop : List ParsedFrame → (windowUpdate : Text) → (windowUpdateSeen : Bool) →
    (priorities : List Text) → Text × List Text
  | [], windowUpdate, _, priorities => (windowUpdate, priorities)
  | frame :: rest, windowUpdate, windowUpdateSeen, priorities =>
    if frame.header.kind = some .headers then (windowUpdate, priorities)
    else
      match frame.payload with
      | .windowUpdate payload =>
        if frame.header.kind = some .windowUpdate ∧ frame.header.streamId = 0 ∧
            ¬ windowUpdateSeen then
          akamaiLoop rest (decimalText payload.increment) true priorities
        else
          akamaiLoop rest windowUpdate windowUpdateSeen priorities
      | .priority payload =>
        if frame.header.kind = some .priority then
          let priority := decimalText frame.header.streamId ++ [':'] ++
            decimalText payload.exclusive.toNat ++ [':'] ++ decimalText payload.dependency ++ [':'] ++
            decimalText payload.weight
          akamaiLoop rest windowUpdate windowUpdateSeen (priorities ++ [priority])
        else
          akamaiLoop rest windowUpdate windowUpdateSeen priorities
      | _ => akamaiLoop rest windowUpdate windowUpdateSeen priorities

/-- The letter after the colon of every pseudo-header; a lone colon has none. -/
def pseudoHeaders (headers : List Field) : List Text :=
  headers.filterMap fun (name, _) =>
    match asText name with
    | ':' :: letter :: _ => some [letter]
    | _ => none

/-- Combine the initial connection frames with the order of the pseudo-headers. -/
def akamaiFingerprint (capture : HTTP2Capture) : Text :=
  let settings := (capture.initialSettings.getD []).map fun (settingId, value) =>
    decimalText settingId ++ [':'] ++ decimalText value
  let (windowUpdate, priorities) := akamaiLoop capture.frames "00".toList false []
  List.intercalate ['|'] [
    List.intercalate [';'] settings,
    windowUpdate,
    if priorities = [] then ['0'] else List.intercalate [','] priorities,
    List.intercalate [','] (pseudoHeaders (capture.headers.getD []))]

/-- The fingerprint and its hash, for whatever hash function is given. -/
def buildAkamaiFingerprint (md5 : Text → Text) (capture : Option HTTP2Capture) : Dict String Json :=
  match capture with
  | none => [("akamai_fingerprint", .null), ("akamai_fingerprint_hash", .null)]
  | some capture =>
    if capture.frames = [] then
      [("akamai_fingerprint", .null), ("akamai_fingerprint_hash", .null)]
    else
      let fingerprint := akamaiFingerprint capture
      [("akamai_fingerprint", .text fingerprint),
        ("akamai_fingerprint_hash", .text (md5 fingerprint))]

end SolveTls
