import Mathlib.Data.Char
import Mathlib.Data.List.Lex
import SolveTls.Base.Search
import SolveTls.Tls.Extensions

/-! The fingerprints of a ClientHello. -/

namespace SolveTls

open Fallible ByteReader

/-- Drop the reserved values. -/
def noGrease (values : List Nat) : List Nat := values.filter (· ∉ greaseValues)

def dashed (values : List Nat) : Text := Search.join ['-'] (values.map decimalText)

/-- A number in at least four hex digits. -/
def hexDigits (value : Nat) : Text :=
  let digits := Nat.toDigits 16 value
  List.replicate (4 - digits.length) '0' ++ digits

namespace ClientHello

def extensionTypes (clientHello : ClientHello) : List Nat :=
  clientHello.extensions.map Extension.type

/-- The payload of the first extension of a type. -/
def extensionData (clientHello : ClientHello) (extType : Nat) : Option Bytes :=
  (clientHello.extensions.find? fun extension => extension.type = extType).map Extension.data

/-- The numbers in a payload; a malformed one has none. -/
def uint16Values (lengthBytes : Nat) (data : Bytes) : List Nat :=
  match (readValues { data }).1 with
  | .ok values => values
  | .error _ => []
where
  readValues : ReaderM (List Nat) := do
    let vector ← readVector lengthBytes
    within vector readUint16

def uint16Vector (clientHello : ClientHello) (extType lengthBytes : Nat) : List Nat :=
  match clientHello.extensionData extType with
  | none => []
  | some data => uint16Values lengthBytes data

def supportedGroups (clientHello : ClientHello) : List Nat :=
  clientHello.uint16Vector ExtensionType.supportedGroups 2

def supportedVersions (clientHello : ClientHello) : List Nat :=
  clientHello.uint16Vector ExtensionType.supportedVersions 1

def signatureAlgorithms (clientHello : ClientHello) : List Nat :=
  clientHello.uint16Vector ExtensionType.signatureAlgorithms 2

/-- The octets in a payload; a malformed one has none. -/
def octetValues (data : Bytes) : List Nat :=
  match (readVector 1 { data }).1 with
  | .ok octets => octets.map UInt8.toNat
  | .error _ => []

def ecPointFormats (clientHello : ClientHello) : List Nat :=
  match clientHello.extensionData ExtensionType.ecPointFormats with
  | none => []
  | some data => octetValues data

/-- The protocol identifiers in a payload, left as octets; a malformed one has none. -/
def protocolValues (data : Bytes) : List Bytes :=
  match parseAlpnProtocols data with
  | .ok protocols => protocols
  | .error _ => []

def alpnProtocols (clientHello : ClientHello) : List Bytes :=
  match clientHello.extensionData ExtensionType.applicationLayerProtocolNegotiation with
  | none => []
  | some data => protocolValues data

end ClientHello

open ClientHello

/-! ## JA3 -/

/-- The five parts of the string. -/
def ja3Parts (clientHello : ClientHello) : List Text := [
  decimalText clientHello.version,
  dashed (noGrease clientHello.cipherSuites),
  dashed (noGrease clientHello.extensionTypes),
  dashed (noGrease clientHello.supportedGroups),
  dashed clientHello.ecPointFormats]

def ja3 (clientHello : ClientHello) : Text := Search.join [','] (ja3Parts clientHello)

/-- The string and its hash, for whatever hash function is given. -/
def buildJa3 (md5 : Text → Text) (clientHello : Option ClientHello) : Dict String Json :=
  match clientHello with
  | none => [("ja3", .null), ("ja3_hash", .null)]
  | some clientHello =>
    [("ja3", .text (ja3 clientHello)), ("ja3_hash", .text (md5 (ja3 clientHello)))]

/-! ## JA4 -/

def ja4Versions : Dict Nat String := [
  (0x0304, "13"), (0x0303, "12"), (0x0302, "11"), (0x0301, "10"), (0x0300, "s3"), (0x0002, "s2")]

def ja4EmptyHash : Text := "000000000000".toList

def ja4HashLength : Nat := 12

/-- These count toward the first part, but are not hashed into the last one. -/
def ja4UnhashedExtensions : List Nat :=
  [ExtensionType.serverName, ExtensionType.applicationLayerProtocolNegotiation]

/-- Strings in the order of their characters. -/
def sortTexts (texts : List Text) : List Text := texts.mergeSort fun first second => first ≤ second

def ja4Alphanumeric (octet : UInt8) : Bool :=
  0x30 ≤ octet ∧ octet ≤ 0x39 ∨ 0x41 ≤ octet ∧ octet ≤ 0x5A ∨ 0x61 ≤ octet ∧ octet ≤ 0x7A

/-- The identifiers that are not reserved; the reserved ones have two octets. -/
def noGreaseProtocols (protocols : List Bytes) : List Bytes :=
  protocols.filter fun protocol =>
    protocol.length ≠ 2 ∨ Octets.bigEndian protocol ∉ greaseValues

/-- First and last octet of the first identifier that is not reserved. -/
def ja4Alpn (protocols : List Bytes) : Text :=
  match noGreaseProtocols protocols with
  | [] => "00".toList
  | [] :: _ => "00".toList
  | (octet :: octets) :: _ =>
    let first := octet
    let last := (octet :: octets).getLast (List.cons_ne_nil octet octets)
    if ja4Alphanumeric first && ja4Alphanumeric last then
      [Char.ofNat first.toNat, Char.ofNat last.toNat]
    else
      -- Other ends are reported as the ends of the hex instead.
      [Hex.digit (first.toNat / 16), Hex.digit (last.toNat % 16)]

/-- A count of at most 99 in two digits. -/
def ja4Count (count : Nat) : Text :=
  let digits := decimalText (min count 99)
  List.replicate (2 - digits.length) '0' ++ digits

/-- The version that the client really offers. -/
def ja4Version (clientHello : ClientHello) : Nat :=
  (noGrease clientHello.supportedVersions).max?.getD clientHello.version

def ja4Ciphers (clientHello : ClientHello) : List Text :=
  sortTexts ((noGrease clientHello.cipherSuites).map hexDigits)

def ja4Extensions (clientHello : ClientHello) : List Nat := noGrease clientHello.extensionTypes

/-- The signature algorithms keep their order. -/
def ja4Signatures (clientHello : ClientHello) : List Text :=
  (noGrease clientHello.signatureAlgorithms).map hexDigits

def ja4Hashed (clientHello : ClientHello) : List Text :=
  sortTexts
    (((ja4Extensions clientHello).filter (· ∉ ja4UnhashedExtensions)).map hexDigits)

def ja4A (clientHello : ClientHello) : Text :=
  -- This server only ever sees TCP; QUIC would be `q`.
  ['t'] ++ ((ja4Versions.get? (ja4Version clientHello)).getD "00").toList ++
    (if clientHello.extensionData ExtensionType.serverName ≠ none then ['d'] else ['i']) ++
    ja4Count (ja4Ciphers clientHello).length ++ ja4Count (ja4Extensions clientHello).length ++
    ja4Alpn clientHello.alpnProtocols

/-- What is hashed into the second part, if anything is. -/
def ja4BInput (clientHello : ClientHello) : Option Text :=
  if ja4Ciphers clientHello = [] then none
  else some (Search.join [','] (ja4Ciphers clientHello))

/-- What is hashed into the last part, if anything is. -/
def ja4CInput (clientHello : ClientHello) : Option Text :=
  if ja4Hashed clientHello = [] then none
  else
    let tail := Search.join [','] (ja4Hashed clientHello)
    some (if ja4Signatures clientHello = [] then tail
      else tail ++ ['_'] ++ Search.join [','] (ja4Signatures clientHello))

/-- The hash of an input, cut short; without an input it is all zeros. -/
def ja4Hash (sha256 : Text → Text) : Option Text → Text
  | some input => (sha256 input).take ja4HashLength
  | none => ja4EmptyHash

/-- The three parts together, for whatever hash function is given. -/
def buildJa4 (sha256 : Text → Text) (clientHello : Option ClientHello) : Option Text :=
  clientHello.map fun clientHello =>
    ja4A clientHello ++ ['_'] ++ ja4Hash sha256 (ja4BInput clientHello) ++ ['_'] ++
      ja4Hash sha256 (ja4CInput clientHello)

end SolveTls
