import SolveTls.Http2.H2
import SolveTls.Tls.ClientHello

/-! Reading the ClientHello off the socket before OpenSSL sees it. -/

namespace SolveTls

open Fallible

def tlsRecordHeaderSize : Nat := 5
def tlsAlertContentType : UInt8 := 0x15
def tlsHandshakeContentType : UInt8 := 0x16
def tlsClientHelloType : UInt8 := 0x01
def tlsMessageHeaderSize : Nat := 4
def maxTlsRecordSize : Nat := 16384
def maxClientHelloSize : Nat := 65536

/-- What comes after the last octet of the peer. -/
inductive StreamEnd where
  | closed
  /-- Nothing more comes within the deadline. -/
  | stalled
  deriving DecidableEq, Repr

/-- The error of a read that the stream cannot satisfy. -/
def StreamEnd.raised : StreamEnd → Exn
  | .closed => .connection "Incomplete handshake data"
  | .stalled => .timeout

/-- The attributes of a connection that are used before the TLS handshake, with its socket. -/
structure TlsConnection where
  /-- The octets still to be read, and how the stream ends after them. -/
  incoming : Bytes
  ending : StreamEnd := .closed
  /-- Everything handed to the writer. -/
  written : List Bytes := []
  /-- How each `writer.drain()` will end; one past the script returns. -/
  drains : List (Option Exn) := []
  clientHello : Option ClientHello := none
  tlsFatalAlertSent : Bool := false
  deriving DecidableEq, Repr

/-- A method of the connection. -/
abbrev TlsM (α : Type) := Fallible TlsConnection Exn α

namespace TlsConnection

def readExactly (n : Nat) : TlsM Bytes := fun self =>
  if self.incoming.length < n then
    match self.ending with
    -- At the end of the stream the partial octets are thrown away.
    | .closed => (.error StreamEnd.closed.raised, { self with incoming := [] })
    | .stalled => (.error StreamEnd.stalled.raised, self)
  else
    (.ok (self.incoming.take n), { self with incoming := self.incoming.drop n })

/-- `wait_for(writer.drain())` -/
def drain : TlsM Unit := fun self =>
  match self.drains.headD none with
  | none => (.ok (), { self with drains := self.drains.tail })
  | some raised => (.error raised, { self with drains := self.drains.tail })

/-- A fatal alert record in plaintext. -/
def alertRecord (description : UInt8) : Bytes :=
  [tlsAlertContentType, 0x03, 0x03, 0x00, 0x02, 0x02, description]

/-- Send one fatal alert before handing the first ClientHello to OpenSSL. -/
def sendPlaintextAlert (description : UInt8) : TlsM Unit := do
  let self ← get
  runWhen (¬ self.tlsFatalAlertSent) do
    modify fun self => { self with
      tlsFatalAlertSent := true
      written := self.written ++ [alertRecord description] }
    drain

/-- Read the header and the payload of one handshake record. -/
def readRecord : TlsM (Bytes × Bytes) := do
  let header ← readExactly tlsRecordHeaderSize
  runWhen (header.head? ≠ some tlsHandshakeContentType) do
    -- A peer's fatal alert must not trigger another error alert.
    runWhen (header.head? ≠ some tlsAlertContentType) (sendPlaintextAlert 10)
    throw (.ssl "Invalid SSL handshake")
  let recordLength := Octets.bigEndian (header.drop 3)
  runWhen (¬ (0 < recordLength ∧ recordLength ≤ maxTlsRecordSize)) do
    runWhen (recordLength > maxTlsRecordSize) (sendPlaintextAlert 22)
    throw (.ssl "Invalid handshake record length")
  let payload ← readExactly recordLength
  return (header, payload)

/-- The length of the message, which is known once its header is complete. -/
def checkMessage (message : Bytes) (messageLength : Option Nat) : TlsM (Option Nat) :=
  if messageLength = none ∧ message.length ≥ tlsMessageHeaderSize then do
    runWhen (message.head? ≠ some tlsClientHelloType) do
      sendPlaintextAlert 10
      throw (.ssl "Not Client Hello")
    let length := Octets.bigEndian ((message.drop 1).take 3)
    raiseIf (length > maxClientHelloSize) (.ssl "Client Hello too large")
    return some length
  else
    return messageLength

/-- Whether another record is needed to complete the message. -/
def unfinished (message : Bytes) (messageLength : Option Nat) : Bool :=
  match messageLength with
  | none => true
  | some length => message.length < length + tlsMessageHeaderSize

/--
Collect records until the message is complete.

Every turn takes a record header at least, so as many turns as there are octets are enough.
-/
def collectRecords : (turns : Nat) → (raw message : Bytes) → (messageLength : Option Nat) →
    TlsM (Bytes × Bytes × Option Nat)
  | 0, _, _, _ => do throw (← get).ending.raised
  | turns + 1, raw, message, messageLength => do
    if unfinished message messageLength then
      let (header, payload) ← readRecord
      let length ← checkMessage (message ++ payload) messageLength
      collectRecords turns (raw ++ header ++ payload) (message ++ payload) length
    else
      return (raw, message, messageLength)

/-- Parse the ClientHello, and return its octets to be replayed to OpenSSL. -/
def readClientHello : TlsM Bytes := do
  let self ← get
  let (raw, message, messageLength) ← collectRecords (self.incoming.length + 1) [] [] none
  let body := (message.drop tlsMessageHeaderSize).take (messageLength.getD 0)
  match ClientHelloReader.parse body with
  | .ok hello =>
    modify fun self => { self with clientHello := some hello }
    return raw
  | .error _ =>
    -- OpenSSL has not seen these octets yet, so the decode error is reported here.
    sendPlaintextAlert 50
    throw (.ssl "Malformed ClientHello")

end TlsConnection

/-! ### Handshake records -/

/-- A handshake record, with whatever version it claims. -/
structure HandshakeRecord where
  version : Bytes
  payload : Bytes
  /-- The version is a field of two octets. -/
  versioned : version.length = 2
  /-- A record holds between one octet and the maximum. -/
  sized : 1 ≤ payload.length ∧ payload.length ≤ maxTlsRecordSize

namespace HandshakeRecord

def header (record : HandshakeRecord) : Bytes :=
  tlsHandshakeContentType :: record.version ++ Octets.toBigEndian 2 record.payload.length

def wire (record : HandshakeRecord) : Bytes := record.header ++ record.payload

end HandshakeRecord

/-- The octets of records, one after another. -/
def recordOctets (records : List HandshakeRecord) : Bytes := records.flatMap HandshakeRecord.wire

/-- The message that records carry. -/
def messageOf (records : List HandshakeRecord) : Bytes := records.flatMap HandshakeRecord.payload

/-- A new connection whose peer sends these records, and then something else or nothing. -/
def connected (records : List HandshakeRecord) (rest : Bytes) (ending : StreamEnd)
    (drains : List (Option Exn)) : TlsConnection where
  incoming := recordOctets records ++ rest
  ending
  drains

/-! ### What a message deserves -/

/-- How the reading of a message ends. -/
inductive Verdict where
  | accepted (hello : ClientHello)
  | rejected (alert : Option UInt8) (reason : String)
  /-- The stream has to go on. -/
  | incomplete
  deriving DecidableEq, Repr

/-- The number of octets a message declares after its header. -/
def helloLength (message : Bytes) : Nat := Octets.bigEndian ((message.drop 1).take 3)

/-- The octets that a message declares. -/
def helloBody (message : Bytes) : Bytes :=
  (message.drop tlsMessageHeaderSize).take (helloLength message)

/-- The verdict on a message with its header, which has nothing to do with records. -/
def helloVerdict (message : Bytes) : Verdict :=
  if message.head? ≠ some tlsClientHelloType then .rejected (some 10) "Not Client Hello"
  else if helloLength message > maxClientHelloSize then .rejected none "Client Hello too large"
  else if message.length < helloLength message + tlsMessageHeaderSize then .incomplete
  else
    match ClientHelloReader.parse (helloBody message) with
    | .ok hello => .accepted hello
    | .error _ => .rejected (some 50) "Malformed ClientHello"

/-- The exits of a reading that go with a verdict on the message. -/
def Concludes (records : List HandshakeRecord) (rest : Bytes) (start : TlsConnection) :
    Verdict → Except Exn Bytes × TlsConnection → Prop
  | .accepted hello, ran =>
    -- The last record taken is the first one that completes the message.
    ∃ taken last left, records = taken ++ last :: left ∧
      (messageOf taken).length < helloLength (messageOf records) + tlsMessageHeaderSize ∧
      helloLength (messageOf records) + tlsMessageHeaderSize ≤
        (messageOf (taken ++ [last])).length ∧
      ran = (.ok (recordOctets (taken ++ [last])),
        { start with incoming := recordOctets left ++ rest, clientHello := some hello })
  | .rejected alert reason, (outcome, after) =>
    -- Sending the alert may itself fail, which is then the error.
    outcome = .error (match alert with
      | some _ => (start.drains.headD none).getD (.ssl reason)
      | none => .ssl reason) ∧
    after.written = start.written ++ alert.toList.map TlsConnection.alertRecord ∧
    after.clientHello = start.clientHello
  | .incomplete, (outcome, after) =>
    outcome = .error start.ending.raised ∧ after.written = start.written ∧
      after.clientHello = start.clientHello

end SolveTls
