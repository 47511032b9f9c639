import SolveTls.Tls.ClientHello

/-! The TLS encoding of a ClientHello, against which its reader is checked. -/

namespace SolveTls

/-- A number in two octets. -/
def encodeUint16 (value : Nat) : Bytes := Octets.toBigEndian 2 value

/-- Octets behind their length. -/
def encodeVector (lengthBytes : Nat) (content : Bytes) : Bytes :=
  Octets.toBigEndian lengthBytes content.length ++ content

/-- An extension whose parts fit their fields. -/
structure Extension.Fits (extension : Extension) : Prop where
  type : extension.type < 2 ^ 16
  data : extension.data.length < 2 ^ 16

def Extension.encode (extension : Extension) : Bytes :=
  encodeUint16 extension.type ++ encodeVector 2 extension.data

namespace ClientHello

/-- Every number and every vector fits its field. -/
structure Fits (clientHello : ClientHello) : Prop where
  version : clientHello.version < 2 ^ 16
  random : clientHello.random.length = 32
  sessionId : clientHello.sessionId.length < 2 ^ 8
  cipherSuites : ∀ cipherSuite ∈ clientHello.cipherSuites, cipherSuite < 2 ^ 16
  ciphers : (clientHello.cipherSuites.flatMap encodeUint16).length < 2 ^ 16
  compressionMethods : ∀ method ∈ clientHello.compressionMethods, method < 2 ^ 8
  compression : clientHello.compressionMethods.length < 2 ^ 8
  extensions : ∀ extension ∈ clientHello.extensions, extension.Fits
  block : (clientHello.extensions.flatMap Extension.encode).length < 2 ^ 16

/-- Everything in front of the extensions. -/
def encodeHead (clientHello : ClientHello) : Bytes :=
  encodeUint16 clientHello.version ++ clientHello.random ++
    encodeVector 1 clientHello.sessionId ++
    encodeVector 2 (clientHello.cipherSuites.flatMap encodeUint16) ++
    encodeVector 1 (clientHello.compressionMethods.map UInt8.ofNat)

/-- The extensions behind their common length. -/
def encodeExtensions (clientHello : ClientHello) : Bytes :=
  encodeVector 2 (clientHello.extensions.flatMap Extension.encode)

/-- The encodings of a hello: with its extensions and anything behind them, or without any. -/
def Encodes (clientHello : ClientHello) (body : Bytes) : Prop :=
  (clientHello.extensions = [] ∧ body = clientHello.encodeHead) ∨
    ∃ trailing, body = clientHello.encodeHead ++ clientHello.encodeExtensions ++ trailing

end ClientHello

end SolveTls
