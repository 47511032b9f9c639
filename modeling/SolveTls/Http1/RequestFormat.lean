import SolveTls.Http1.UriLaws

/-! The HTTP/1.1 request head as a concatenation of its parts, independent of any parser. -/

namespace SolveTls

open Search

/-- A field line: a name, a colon, and a value between optional blanks. -/
structure FieldLine where
  name : Bytes
  before : Bytes
  value : Bytes
  after : Bytes
  deriving DecidableEq, Repr

namespace FieldLine

def bytes (line : FieldLine) : Bytes :=
  line.name ++ 0x3A :: (line.before ++ line.value ++ line.after)

/-- The name and the value, as they are reported. -/
def header (line : FieldLine) : Text × Text := (asText line.name, asText line.value)

/-- The name is a token, and the value is free of control octets and of blanks at its ends. -/
structure Valid (line : FieldLine) : Prop where
  name : isTokenText (asText line.name) = true
  before : line.before.all isSpaceOrTab = true
  after : line.after.all isSpaceOrTab = true
  clean : line.value.any isControlOctet = false
  begins : line.value.head?.any isSpaceOrTab = false
  ends : line.value.getLast?.any isSpaceOrTab = false

end FieldLine

/-- A request head, with an empty line in front of it or not. -/
structure RequestHead where
  leading : Bool
  method : Bytes
  target : Bytes
  fields : List FieldLine
  deriving DecidableEq, Repr

namespace RequestHead

def requestLine (head : RequestHead) : Bytes :=
  head.method ++ 0x20 :: (head.target ++ 0x20 :: supportedVersion)

def lines (head : RequestHead) : List Bytes := head.requestLine :: head.fields.map FieldLine.bytes

def bytes (head : RequestHead) : Bytes :=
  (if head.leading then crlf else []) ++ head.lines.flatMap (· ++ crlf) ++ crlf

def headers (head : RequestHead) : List (Text × Text) := head.fields.map FieldLine.header

/-- The request that a head stands for. -/
def request (head : RequestHead) : HTTP1Request where
  method := asText head.method
  path := asText head.target
  headers := head.headers
  rawHead := head.bytes

/-- The heads that are valid as far as their framing is not concerned. -/
structure Unframed (library : UriLibrary) (head : RequestHead) : Prop where
  method : isTokenText (asText head.method) = true
  target : validateTarget library (asText head.method) (asText head.target) = .ok ()
  fields : ∀ line ∈ head.fields, line.Valid
  host : ∃ host name, fieldTexts head.headers "host" = [host] ∧
    validateAuthority library.ipv6Compressed host false = .ok name

/-- The heads that are requests. -/
structure Valid (library : UriLibrary) (head : RequestHead) : Prop where
  method : isTokenText (asText head.method) = true
  target : validateTarget library (asText head.method) (asText head.target) = .ok ()
  fields : ∀ line ∈ head.fields, line.Valid
  host : ∃ host name, fieldTexts head.headers "host" = [host] ∧
    validateAuthority library.ipv6Compressed host false = .ok name
  framing : validateFraming head.headers = .ok ()

end RequestHead

/-- The octets through the first empty line. -/
def throughHeadEnd (raw : Bytes) : Option Bytes :=
  (find? headEnd raw).map fun position => raw.take (position + headEnd.length)

/-- Text back to the octets it was decoded from. -/
def asOctets (text : Text) : Bytes := text.map fun char => UInt8.ofNat char.toNat

/-- The head of a request without an empty line in front and without optional blanks. -/
def HTTP1Request.canonical (request : HTTP1Request) : RequestHead where
  leading := false
  method := asOctets request.method
  target := asOctets request.path
  fields := request.headers.map fun (name, value) =>
    { name := asOctets name, before := [], value := asOctets value, after := [] }

end SolveTls
