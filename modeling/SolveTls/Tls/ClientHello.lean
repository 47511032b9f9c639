import SolveTls.Wire.Reader

/-! The fields of a ClientHello, extracted for capture. -/

namespace SolveTls

open Fallible ByteReader

structure Extension where
  type : Nat
  data : Bytes
  deriving DecidableEq, Repr

structure ClientHello where
  version : Nat
  random : Bytes
  sessionId : Bytes
  cipherSuites : List Nat
  compressionMethods : List Nat
  extensions : List Extension
  deriving DecidableEq, Repr

namespace ClientHelloReader

def readExtension : ReaderM Extension := do
  let type ← readUint16
  let data ← readVector 2
  return { type, data }

/-- The extensions, which may be missing altogether. -/
def readExtensions : ReaderM (List Extension) := do
  let self ← get
  if self.hasMore then
    let blob ← readVector 2
    within blob readExtension
  else
    return []

def parseHello : ReaderM ClientHello := do
  let version ← readUint16
  let random ← read 32
  let sessionId ← readVector 1
  let ciphers ← readVector 2
  let cipherSuites ← within ciphers readUint16
  let compression ← readVector 1
  -- What follows the extensions is not looked at.
  let extensions ← readExtensions
  return {
    version, random, sessionId, cipherSuites
    compressionMethods := compression.map UInt8.toNat
    extensions
  }

/-- Parse the body of a ClientHello message. -/
def parse (body : Bytes) : Except String ClientHello := (parseHello { data := body }).1

end ClientHelloReader

end SolveTls
