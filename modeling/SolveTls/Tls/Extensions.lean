import SolveTls.Tls.ClientHello
import SolveTls.Tls.Enums
import SolveTls.Wire.Naming

/-! What the report says about the payload of an extension. -/

namespace SolveTls

open Fallible ByteReader

/-- Pair a value with its name in a table. -/
def describeIn (names : Dict Nat String) (value : Nat) : Json :=
  .object (describe value (names.get? value))

/-- The values of a vector of 16-bit numbers, each with its name. -/
def uint16List (data : Bytes) (names : Dict Nat String) : ReaderM (List Json) := do
  let values ← within data readUint16
  return values.map (describeIn names)

/-- A vector of 16-bit numbers behind a length, under the name of the field that shows it. -/
def decodeUint16Vector (field : String) (lengthBytes : Nat) (names : Dict Nat String) :
    ReaderM Json := do
  let data ← readVector lengthBytes
  let values ← uint16List data names
  return .object [(field, .list values)]

/-- A vector of octets behind a length, under the name of the field that shows it. -/
def decodeOctetVector (field : String) (names : Dict Nat String) : ReaderM Json := do
  let octets ← readVector 1
  return .object [(field, .list (octets.map fun octet => describeIn names octet.toNat))]

/-- One name of the list; `utf8` decodes with replacement characters. -/
def readServerName (utf8 : Bytes → Text) : ReaderM Json := do
  let nameType ← readUint8
  let host ← readVector 2
  return .object [("type", describeIn serverNameTypeNames nameType), ("host", .text (utf8 host))]

def decodeServerName (utf8 : Bytes → Text) : ReaderM Json := do
  let names ← within (← readVector 2) (readServerName utf8)
  return .object [("server_names", .list names)]

def decodeSupportedGroups : ReaderM Json := decodeUint16Vector "groups" 2 namedGroupNames

def decodeEcPointFormats : ReaderM Json := decodeOctetVector "formats" ecPointFormatNames

def decodeSignatureAlgorithms : ReaderM Json := decodeUint16Vector "algorithms" 2 signatureSchemeNames

/-- Read opaque protocol identifiers; what follows their list is an error. -/
def parseAlpnProtocols (data : Bytes) : Except String (List Bytes) :=
  (readProtocols { data }).1
where
  readProtocols : ReaderM (List Bytes) := do
    let list ← readVector 2
    let self ← get
    raiseIf (self.hasMore = true) "Unexpected trailing bytes in ALPN extension payload"
    within list (readVector 1)

def decodeAlpn : ReaderM Json := do
  let protocols ← fromExcept (parseAlpnProtocols (← readRemaining))
  return .object [("protocols", .list (protocols.map fun protocol => .text (asText protocol)))]

def decodeSupportedVersions : ReaderM Json := decodeUint16Vector "versions" 1 tlsVersionNames

def decodePskKeyExchangeModes : ReaderM Json := decodeOctetVector "modes" pskKeyExchangeModeNames

def readKeyShare : ReaderM Json := do
  let group ← readUint16
  let keyExchange ← readVector 2
  return .object [
    ("group", describeIn namedGroupNames group),
    ("key_exchange_length", .number keyExchange.length),
    ("key_exchange", .text (Hex.encode keyExchange))]

def decodeKeyShare : ReaderM Json := do
  let shares ← within (← readVector 2) readKeyShare
  return .object [("shares", .list shares)]

def decodeRecordSizeLimit : ReaderM Json := do
  let limit ← readUint16
  let self ← get
  raiseIf (self.hasMore = true) "record_size_limit must contain exactly 2 bytes"
  return .object [("limit", .number limit)]

def decodeCompressCertificate : ReaderM Json :=
  decodeUint16Vector "algorithms" 1 certificateCompressionAlgorithmNames

def decodePadding : ReaderM Json := do
  let padding ← readRemaining
  return .object [
    ("length", .number padding.length),
    ("all_zero", .bool (padding.all (· = 0)))]

/-- Presence is the entire message; a payload here means the client is unusual. -/
def decodeEmpty : ReaderM Json := do
  let payload ← readRemaining
  return .object [("present", .bool true), ("unexpected_bytes", .number payload.length)]

/-- The decoder of an extension type that has one. -/
def decoder? (utf8 : Bytes → Text) (extType : Nat) : Option (ReaderM Json) :=
  Dict.get? [
    (ExtensionType.serverName, decodeServerName utf8),
    (ExtensionType.supportedGroups, decodeSupportedGroups),
    (ExtensionType.ecPointFormats, decodeEcPointFormats),
    (ExtensionType.signatureAlgorithms, decodeSignatureAlgorithms),
    (ExtensionType.signatureAlgorithmsCert, decodeSignatureAlgorithms),
    (ExtensionType.applicationLayerProtocolNegotiation, decodeAlpn),
    (ExtensionType.padding, decodePadding),
    (ExtensionType.encryptThenMac, decodeEmpty),
    (ExtensionType.extendedMasterSecret, decodeEmpty),
    (ExtensionType.compressCertificate, decodeCompressCertificate),
    (ExtensionType.recordSizeLimit, decodeRecordSizeLimit),
    (ExtensionType.supportedVersions, decodeSupportedVersions),
    (ExtensionType.pskKeyExchangeModes, decodePskKeyExchangeModes),
    (ExtensionType.keyShare, decodeKeyShare)] extType

/-- Run a decoder, which has to use up the whole payload. -/
def decodeWhole (decoder : ReaderM Json) : ReaderM Json := do
  let decoded ← decoder
  let self ← get
  raiseIf (self.hasMore = true) "Unexpected trailing bytes in extension payload"
  return decoded

/-- Decode the complete payload, or report what is wrong with it; most types have no decoder. -/
def decodeExtension (utf8 : Bytes → Text) (extType : Nat) (data : Bytes) : Option Json :=
  (decoder? utf8 extType).map fun decoder =>
    match (decodeWhole decoder { data }).1 with
    | .ok decoded => decoded
    | .error message => .object [("error", .text message.toList)]

end SolveTls
