import SolveTls.Base.DynamicTable
import SolveTls.Http.Fields
import SolveTls.Http2.H2

/-! The h2 connection with the program's own header codecs installed in it. -/

namespace SolveTls

open Fallible

def maxRequestBody : Nat := 1048576
def maxHeaderListSize : Nat := 65536
def maxDecodedHeaderBytes : Nat := 1048576
def settingsBatchSize : Nat := 128
def maxHeaderTableSizeChanges : Nat := 128

/-- The identifiers h2 knows: every member of `SettingCodes`. -/
def supportedSettings : List Nat := [0x01, 0x02, 0x03, 0x04, 0x05, 0x06, 0x08]

/-- Bound decimal text without converting more digits than the limit has. -/
def boundedContentLength (value : Bytes) : Nat :=
  let significant := if stripZeros value = [] then ascii "0" else stripZeros value
  if significant.length > (decimalOctets maxRequestBody).length then maxRequestBody + 1
  else min (decimalValue significant) (maxRequestBody + 1)

/-- The decoder shared by all streams, with the field list it produced last. -/
structure RequestDecoder (δ : Type) where
  inner : δ
  originalHeaders : Option (List Field) := none
  decodedBytes : Nat := 0

/-- The list h2 gets: lengths are replaced by bounded ones, everything else is untouched. -/
def workingHeaders (headers : List Field) : List Field :=
  headers.map fun (name, value) =>
    if name = ascii "content-length" ∧ isDigits value then
      (name, decimalOctets (boundedContentLength value))
    else
      (name, value)

/-- The size RFC 7541 charges for a field. -/
def fieldSize (field : Field) : Nat := field.1.length + field.2.length + 32

/-- Decode one block, keeping the raw list aside for the event of the same call. -/
def RequestDecoder.decode {δ : Type} (hpack : Hpack δ) (data : Bytes) (raw : Bool) :
    Fallible (RequestDecoder δ) Exn (List Field) := fun self =>
  match hpack.decode self.inner data with
  | (.error (.hpack message), inner) =>
    -- Classified here, because h2 would turn it into PROTOCOL_ERROR.
    (.error (.protocolError s!"Error decoding header block: {message}"
      ErrorCode.compressionError.code), { self with inner })
  | (.error raised, inner) => (.error raised, { self with inner })
  | (.ok headers, inner) =>
    let decodedBytes := self.decodedBytes + (headers.map fieldSize).sum
    if decodedBytes > maxDecodedHeaderBytes then
      (.error (.oversizedHeaderList "HTTP/2 decoded header budget exceeded"),
        { self with inner, decodedBytes })
    else
      (.ok (if raw then workingHeaders headers else headers),
        { inner, decodedBytes, originalHeaders := some headers })

/-- The encoder's dynamic table and the size changes it has not announced yet. -/
structure ResponseEncoder where
  entries : List Field := []
  maxSize : Nat := 4096
  resized : Bool := false
  tableSizeChanges : List Nat := []
  deriving DecidableEq, Repr

/-- A header block: announced table sizes, encoded fields and the entries they insert. -/
structure HeaderBlock where
  updates : List Nat
  fields : Bytes
  inserted : List Field
  deriving DecidableEq, Repr

/-- The continuation octets of an HPACK integer. -/
def integerTail : Nat → Nat → Bytes
  | 0, _ => []
  | fuel + 1, value =>
    if value < 128 then [UInt8.ofNat value]
    else UInt8.ofNat (value % 128 + 128) :: integerTail fuel (value / 128)

/-- A dynamic table size update: an integer with a five-bit prefix under the pattern `001`. -/
def sizeUpdateBytes (size : Nat) : Bytes :=
  if size < 31 then [UInt8.ofNat (0x20 + size)] else 0x3F :: integerTail (size + 1) (size - 31)

/-- The octets of a header block. -/
def HeaderBlock.bytes (block : HeaderBlock) : Bytes :=
  block.updates.flatMap sizeUpdateBytes ++ block.fields

namespace ResponseEncoder

/-- hpack's setter: resize the table and record the value if it is a real change. -/
def setHeaderTableSize (self : ResponseEncoder) (size : Nat) : ResponseEncoder where
  entries := DynamicTable.shrink fieldSize size self.entries
  maxSize := size
  -- Assigning the current size again clears the flag but not the recorded changes.
  resized := size ≠ self.maxSize
  tableSizeChanges :=
    if size ≠ self.maxSize then self.tableSizeChanges ++ [size] else self.tableSizeChanges

/-- hpack's own encoding: announce recorded changes if the flag is set, then the fields. -/
def encodeRecorded {δ : Type} (hpack : Hpack δ) (self : ResponseEncoder) (headers : List Field) :
    HeaderBlock × ResponseEncoder :=
  let represented := hpack.represent self.maxSize self.entries headers
  let entries := represented.2.foldl (DynamicTable.insert fieldSize self.maxSize) self.entries
  let block := {
    updates := if self.resized then self.tableSizeChanges else []
    fields := represented.1
    inserted := represented.2
  }
  (block, { self with
    entries
    resized := false
    tableSizeChanges := if self.resized then [] else self.tableSizeChanges })

/-- Only the smallest and the final of the recorded sizes need announcing. -/
def collapse (changes : List Nat) : List Nat :=
  match changes.min?, changes.getLast? with
  | some smallest, some final => if smallest = final then [smallest] else [smallest, final]
  | _, _ => changes

def encode {δ : Type} (hpack : Hpack δ) (self : ResponseEncoder) (headers : List Field) :
    HeaderBlock × ResponseEncoder :=
  encodeRecorded hpack { self with tableSizeChanges := collapse self.tableSizeChanges } headers

end ResponseEncoder

/-- A call of the library into the encoder. -/
inductive EncoderCall where
  | assigned (size : Nat)
  | encoded (block : HeaderBlock)
  deriving DecidableEq, Repr

/-- The connection: the library's state, its outbound buffer and the installed codecs. -/
structure H2Adapter (κ δ : Type) where
  core : κ
  outgoing : List WireFrame := []
  decoder : RequestDecoder δ
  encoder : ResponseEncoder := {}
  headerTableSizeChanges : Nat := 0
  /-- History of the calls into the encoder; no function reads it. -/
  encoderCalls : List EncoderCall := []

namespace H2Adapter

variable {κ δ α : Type}

/-- Carry out one library call, answering its calls into the codecs. -/
def call (hpack : Hpack δ) : H2Call κ α → Fallible (H2Adapter κ δ) Exn α
  | .done result core queued, self =>
    (result, { self with core, outgoing := self.outgoing ++ queued })
  | .decode block resume, self =>
    match RequestDecoder.decode hpack block true self.decoder with
    | (decoded, decoder) => call hpack (resume decoded) { self with decoder }
  | .resizeEncoder size resume, self =>
    call hpack resume { self with
      encoder := self.encoder.setHeaderTableSize size
      encoderCalls := self.encoderCalls ++ [.assigned size] }
  | .encode headers resume, self =>
    match self.encoder.encode hpack headers with
    | (block, encoder) =>
      call hpack (resume block.bytes) { self with
        encoder
        encoderCalls := self.encoderCalls ++ [.encoded block] }

/-- Give a request or trailer event the field list that was decoded from the wire. -/
def withOriginalHeaders (original : Option (List Field)) : Event → Event
  | .requestReceived streamId _ ended => .requestReceived streamId original ended
  | .trailersReceived streamId _ => .trailersReceived streamId original
  | event => event

/-- Pass at most one frame to the library, and restore the raw fields in its events. -/
def receiveData (packages : Packages κ δ) (data : Bytes) :
    Fallible (H2Adapter κ δ) Exn (List Event) := do
  let self ← get
  let events ← call packages.hpack (packages.h2.receiveData self.core data)
  let self ← get
  return events.map (withOriginalHeaders self.decoder.originalHeaders)

/-- Take everything queued for sending. -/
def dataToSend : Fallible (H2Adapter κ δ) Exn (List WireFrame) := do
  let self ← get
  set { self with outgoing := [] }
  return self.outgoing

end H2Adapter

end SolveTls
