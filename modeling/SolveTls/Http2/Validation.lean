import SolveTls.Http.Uri
import SolveTls.Http2.H2

/-! The checks an HTTP/2 field list passes before the request is accepted. -/

namespace SolveTls

variable {κ δ : Type}

/-- A `ProtocolError` with its default code. -/
def protocolFault (message : String) : Exn := .protocolError message ErrorCode.protocolError.code

/-- A text error of a helper, raised again as a protocol error. -/
def asProtocolFault {α : Type} : Except String α → Except Exn α
  | .ok value => .ok value
  | .error message => .error (protocolFault message)

def isTokenOctet (octet : UInt8) : Bool :=
  let char := Char.ofNat octet.toNat
  isAlpha char || isDigit char || "!#$%&'*+.^_`|~-".toList.contains char

def isToken (octets : Bytes) : Bool := !octets.isEmpty && octets.all isTokenOctet

/-- A letter followed by letters, digits, plus, dot and hyphen. -/
def isScheme (octets : Bytes) : Bool :=
  match asText octets with
  | first :: rest =>
    isAlpha first && rest.all fun char => isAlpha char || isDigit char || "+.-".toList.contains char
  | [] => false

def isBlankOctet (octet : UInt8) : Bool := octet = 0x20 || octet = 0x09

/-- The checks on the octets of one field. -/
def validateRawField (trailers : Bool) (field : Field) : Except Exn Unit :=
  let (name, value) := field
  if (value.any fun octet => octet = 0 || octet = 10 || octet = 13) ∨
      value.head?.any isBlankOctet ∨ value.getLast?.any isBlankOctet then
    .error (protocolFault "Invalid HTTP field value")
  else if name.head? ≠ some 0x3A ∧ ¬ isToken name then
    .error (protocolFault "Invalid HTTP field name")
  else if name = ascii "content-length" ∧ (value = [] ∨ ¬ isDigits value ∨ trailers) then
    .error (protocolFault "Invalid Content-Length field")
  else .ok ()

def validateRawFields (headers : List Field) (trailers : Bool) : Except Exn Unit :=
  headers.forM (validateRawField trailers)

/-- The values of all fields of one name, in order. -/
def fieldValues (headers : List Field) (name : Bytes) : List Bytes :=
  (headers.filter fun field => field.1 = name).map Prod.snd

def validateFieldLists (headers : List Field) : Except Exn Unit := do
  let lengths := fieldValues headers (ascii "content-length")
  -- Lengths are compared as integers by dropping leading zeros, without converting them.
  if lengths.any fun value => stripZeros value ≠ stripZeros (lengths.headD []) then
    throw (protocolFault "Conflicting Content-Length fields")
  else if (fieldValues headers (ascii "host")).length > 1 then
    throw (protocolFault "Duplicate Host fields")
  else
    let transferOptions ← asProtocolFault (parseHttpList (fieldValues headers (ascii "te")))
    if transferOptions.any fun value => lower value ≠ "trailers".toList then
      throw (protocolFault "Invalid TE field")
    else
      return ()

def validateRequestAuthority (packages : Packages κ δ) (values : Dict Bytes Bytes)
    (connect : Bool) (scheme : Bytes) : Except Exn Unit := do
  let authority := asText
    ((values.get? (ascii ":authority")).getD ((values.get? (ascii "host")).getD []))
  let host ← asProtocolFault (validateAuthority packages.ipv6Compressed authority connect)
  match values.get? (ascii ":authority"), values.get? (ascii "host") with
  | some _, some other =>
    let normalizedAuthority ← asProtocolFault
      (normalizeAuthority packages.ipv6Compressed authority (asText scheme) connect)
    let normalizedHost ← asProtocolFault
      (normalizeAuthority packages.ipv6Compressed (asText other) (asText scheme) connect)
    if normalizedAuthority ≠ normalizedHost then
      throw (protocolFault "Host and :authority do not match")
    else if host = [] then throw (protocolFault "Invalid request authority")
    else return ()
  | _, _ => if host = [] then throw (protocolFault "Invalid request authority") else return ()

/-- The checks on scheme and path, which CONNECT requests do not have. -/
def validateSchemePath (values : Dict Bytes Bytes) (method scheme : Bytes) : Except Exn Unit :=
  let path := (values.get? (ascii ":path")).getD []
  let scheme' := lowerOctets scheme
  if ¬ isScheme scheme then .error (protocolFault "Invalid request scheme")
  else if (scheme' = ascii "http" ∨ scheme' = ascii "https") ∧
      ¬ (path.head? = some 0x2F ∨ path = ascii "*" ∧ method = ascii "OPTIONS") then
    .error (protocolFault "Invalid request path")
  else if path.any (0x80 ≤ ·) then .error (protocolFault "Invalid request path")
  else
    match partition '?' (asText path) with
    | (pathText, query) =>
      match validatePathQuery pathText (query.getD []) with
      | .ok () => .ok ()
      | .error _ => .error (protocolFault "Invalid request path")

def validateRequestTarget (packages : Packages κ δ) (values : Dict Bytes Bytes) :
    Except Exn Unit := do
  let method := (values.get? (ascii ":method")).getD []
  let scheme := (values.get? (ascii ":scheme")).getD []
  if ¬ isToken method then throw (protocolFault "Invalid request method")
  else if (values.get? (ascii ":protocol")).isSome then
    throw (protocolFault "Extended CONNECT was not enabled")
  else if method ≠ ascii "CONNECT" then
    validateSchemePath values method scheme
    validateRequestAuthority packages values false scheme
  else if (values.get? (ascii ":authority")).getD [] = [] then
    throw (protocolFault "CONNECT requires an authority")
  else
    validateRequestAuthority packages values true scheme

/-- The working copy for h2: every field stays in place, only te and host are adapted. -/
def headersForH2 (headers : List Field) (values : Dict Bytes Bytes) (trailers : Bool) :
    List Field :=
  headers.map fun (name, value) =>
    if name = ascii "te" then (name, ascii "trailers")
    else
      match values.get? (ascii ":authority") with
      | some authority =>
        if name = ascii "host" ∧ ¬ trailers then (name, authority) else (name, value)
      | none => (name, value)

/-- Check raw fields first, then an equivalent working copy with h2. -/
def validateFields (packages : Packages κ δ) (headers : List Field) (trailers : Bool) :
    Except Exn Unit := do
  let values := Dict.ofItems headers
  validateRawFields headers trailers
  validateFieldLists headers
  if trailers then packages.validateHeaders trailers (headersForH2 headers values trailers)
  else
    validateRequestTarget packages values
    packages.validateHeaders trailers (headersForH2 headers values trailers)

end SolveTls
