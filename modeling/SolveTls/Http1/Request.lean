import SolveTls.Base.Search
import SolveTls.Http.Uri
import SolveTls.Http2.H2

/-! HTTP/1.1 request heads: their size, their request line and their fields. -/

namespace SolveTls

open Search

def maxHeadSize : Nat := 65536

def crlf : Bytes := [0x0D, 0x0A]

/-- The empty line that ends a head. -/
def headEnd : Bytes := [0x0D, 0x0A, 0x0D, 0x0A]

/-- What `urllib.parse.urlsplit` returns, apart from the fragment. -/
structure SplitResult where
  scheme : Text
  netloc : Text
  path : Text
  query : Text
  deriving DecidableEq, Repr

/-- The functions of the standard library that URIs are read with. -/
structure UriLibrary where
  /-- `urlsplit`, or the text of the `ValueError` it raises. -/
  urlsplit : Text → Except String SplitResult
  /-- `ipaddress.IPv6Address(text).compressed`, or nothing when it raises. -/
  ipv6Compressed : Text → Option Text

structure HTTP1Request where
  method : Text
  path : Text
  headers : List (Text × Text)
  rawHead : Bytes
  deriving DecidableEq, Repr

/-- An `HTTP1Error` with its default status. -/
def badRequest (message : String) : Exn := .http1 message 400

/-- A text error of a helper, raised as a `ValueError`. -/
def asValueError {α : Type} : Except String α → Except Exn α
  | .ok value => .ok value
  | .error message => .error (.value message)

/-- Raise `HTTP1Error` in place of a `ValueError`, of which it is a subclass itself. -/
def asHttp1Error {α : Type} : Except Exn α → Except Exn α
  | .error (.value message) | .error (.http1 message _) => .error (badRequest message)
  | outcome => outcome

/-! ### The size of a head -/

/-- Where the request line begins, behind an initial empty line. -/
def lineStart (data : Bytes) : Nat := if crlf <+: data then 2 else 0

/-- Where the request line ends, if its end has come. -/
def lineEnd (data : Bytes) : Option Nat := findFrom? crlf data (lineStart data)

/-- As much of the request line as has come. -/
def requestLine (data : Bytes) : Bytes :=
  (data.take ((lineEnd data).getD data.length)).drop (lineStart data)

/-- Whether the request line leaves no room for the end of the head. -/
def LineTooLarge (data : Bytes) : Prop :=
  ∀ position ∈ lineEnd data, position + headEnd.length > maxHeadSize

instance (data : Bytes) : Decidable (LineTooLarge data) :=
  inferInstanceAs (Decidable (∀ _ ∈ _, _))

/-- Which error an oversized head deserves: its target or all of it may be to blame. -/
def headSizeError (data : Bytes) : Exn :=
  match cut 0x20 (requestLine data) with
  | (_, none) => .http1 "Request head too large" 431
  | (method, some remainder) =>
    let target := (cut 0x20 remainder).1
    -- Reserve only the supported version and the terminating line breaks.
    let framingSize := lineStart data + method.length + "  HTTP/1.1\r\n\r\n".length
    if LineTooLarge data ∧ framingSize < maxHeadSize ∧
        maxHeadSize - framingSize < target.length then
      .http1 "Request target too long" 414
    else .http1 "Request head too large" 431

/-- Bound a head; an incomplete one at the limit cannot fit its remaining terminator. -/
def checkHeadSize (data : Bytes) (incomplete : Bool) : Except Exn Unit :=
  match find? headEnd data with
  | some position =>
    -- Octets behind the terminator are content, not part of the head.
    if position + headEnd.length > maxHeadSize then .error (headSizeError data) else .ok ()
  | none =>
    if data.length > maxHeadSize ∨ incomplete ∧ data.length ≥ maxHeadSize then
      .error (headSizeError data)
    else .ok ()

/-! ### The request target -/

def isTokenChar (char : Char) : Bool :=
  isAlpha char || isDigit char || "!#$%&'*+-.^_`|~".toList.contains char

def isTokenText (text : Text) : Bool := !text.isEmpty && text.all isTokenChar

def isSchemeChar (char : Char) : Bool := isAlpha char || isDigit char || "+.-".toList.contains char

/-- The scheme at the front of a target, and what follows its colon. -/
def schemeOf : Text → Option (Text × Text)
  | [] => none
  | first :: rest =>
    match isAlpha first, rest.dropWhile isSchemeChar with
    | true, ':' :: remainder => some (first :: rest.takeWhile isSchemeChar, remainder)
    | _, _ => none

/-- The characters an authority in a URI may consist of. -/
def isAuthorityChar (char : Char) : Bool := char ≠ '/' && char ≠ '?' && char ≠ '#'

/-- The position behind the last occurrence of a character, or zero. -/
def behindLast (separator : Char) (text : Text) : Nat :=
  text.length - (text.reverse.takeWhile (· ≠ separator)).length

/-- Split an absolute URI without changing its authority's spelling. -/
def splitAbsoluteUri (library : UriLibrary) (target : Text) : Except String SplitResult :=
  match schemeOf target with
  | some (scheme, '/' :: '/' :: remainder) =>
    let authority := remainder.takeWhile isAuthorityChar
    let hostStart := behindLast '@' authority
    match authority.drop hostStart with
    | '[' :: 'V' :: _ =>
      -- urlsplit recognizes only a lowercase IPvFuture prefix.
      let position := scheme.length + 3 + hostStart + 1
      (library.urlsplit (target.take position ++ 'v' :: target.drop (position + 1))).map
        fun parsed => { parsed with netloc := authority }
    | _ => library.urlsplit target
  | _ => library.urlsplit target

def isUserInfo (text : Text) : Bool := isEscaped (fun char => isRegNameChar char || char = ':') text

def isHttpScheme (scheme : Text) : Bool :=
  lower scheme = "http".toList || lower scheme = "https".toList

/-- The host of an absolute-form target, if it has an authority. -/
def targetHost (library : UriLibrary) (target : Text) (parsed : SplitResult) :
    Except Exn (Option Text) :=
  if "//".toList <+: (partition ':' target).2.getD [] then
    let authority := parsed.netloc
    if authority.contains '@' then
      let userInfo := authority.take (behindLast '@' authority - 1)
      if isHttpScheme parsed.scheme ∨ ¬ isUserInfo userInfo then
        .error (.value "Invalid user information in absolute-form target")
      else
        (asValueError (validateAuthority library.ipv6Compressed
          (authority.drop (behindLast '@' authority)) false)).map some
    else (asValueError (validateAuthority library.ipv6Compressed authority false)).map some
  else .ok none

def validateAbsoluteForm (library : UriLibrary) (target : Text) : Except Exn Unit :=
  if schemeOf target = none ∨ target.contains '#' then
    .error (.value "Invalid request target")
  else if target.any fun char => char.toNat ≤ 32 || char.toNat ≥ 127 then
    .error (.value "Invalid character in request target")
  else
    match splitAbsoluteUri library target with
    | .error _ => .error (.value "Invalid absolute-form request target")
    | .ok parsed => do
      asValueError (validatePathQuery parsed.path parsed.query)
      let host ← targetHost library target parsed
      if isHttpScheme parsed.scheme ∧ host.getD [] = [] then
        throw (.value "HTTP absolute-form target requires an authority")
      else return ()

def validateTarget (library : UriLibrary) (method target : Text) : Except Exn Unit :=
  if method = "CONNECT".toList then
    (asValueError (validateAuthority library.ipv6Compressed target true)).map fun _ => ()
  else if target = ['*'] then
    if method ≠ "OPTIONS".toList then
      .error (.value "Asterisk target is only valid for OPTIONS")
    else .ok ()
  else if target.head? = some '/' then
    match partition '?' target with
    | (path, query) => asValueError (validatePathQuery path (query.getD []))
  else validateAbsoluteForm library target

/-! ### The fields -/

/-- The values of all fields of one lower-case name, in order. -/
def fieldTexts (headers : List (Text × Text)) (name : String) : List Text :=
  (headers.filter fun field => lower field.1 = name.toList).map Prod.snd

/-- `parse_http_list` of values that are text already. -/
def parseHttpTexts (values : List Text) : Except String (List Text) :=
  parseListLoop (List.intercalate [','] values) [] [] false false

def validateLengths (lengths : List Text) : Except Exn Unit :=
  let values := lengths.flatMap fun value => (split [','] value).map strip
  if values.any fun value => value = [] || !value.all isDigit then
    .error (badRequest "Invalid Content-Length")
  -- Decimal values are compared without converting them.
  else if values.any fun value => significantDigits value ≠ significantDigits (values.headD []) then
    .error (badRequest "Conflicting Content-Length values")
  else .ok ()

/-- What follows the closing quote of a quoted string. -/
def quotedRest : Text → Option Text
  | [] => none
  | '"' :: rest => some rest
  | '\\' :: escaped :: rest => if escaped = '\n' then none else quotedRest rest
  | char :: rest => if char = '\\' then none else quotedRest rest

/-- What follows a parameter of a transfer coding, given what follows its semicolon. -/
def parameterRest (text : Text) : Option Text :=
  let name := text.dropWhile isBlank
  match isTokenText (name.takeWhile isTokenChar),
    (name.dropWhile isTokenChar).dropWhile isBlank with
  | true, '=' :: value =>
    match value.dropWhile isBlank with
    | '"' :: quoted => quotedRest quoted
    | plain => if plain.takeWhile isTokenChar = [] then none else some (plain.dropWhile isTokenChar)
  | _, _ => none

/-- Whether nothing but parameters follows; every turn passes one of them. -/
def onlyParameters : (turns : Nat) → Text → Bool
  | 0, _ => false
  | turns + 1, text =>
    match text.dropWhile isBlank with
    | [] => true
    | ';' :: parameter =>
      match parameterRest parameter with
      | some rest => onlyParameters turns rest
      | none => false
    | _ => false

/-- The coding that a list member names, if the member is well-formed. -/
def transferCoding (value : Text) : Option Text :=
  let coding := value.takeWhile isTokenChar
  if coding ≠ [] ∧ onlyParameters (value.length + 1) (value.dropWhile isTokenChar) then some coding
  else none

def checkTransferCoding (value : Text) : Except Exn Text :=
  match transferCoding value with
  | none => .error (badRequest "Invalid Transfer-Encoding")
  | some coding =>
    if lower coding = "chunked".toList ∧ value.contains ';' then
      .error (badRequest "Chunked transfer coding cannot have parameters")
    else .ok (lower coding)

def knownTransferCodings : List Text :=
  ["chunked".toList, "compress".toList, "deflate".toList, "gzip".toList]

def validateEncodings (encodings : List Text) : Except Exn Unit := do
  let members ← asHttp1Error (asValueError (parseHttpTexts encodings))
  let codings ← members.mapM checkTransferCoding
  if codings.getLast? ≠ some "chunked".toList ∨ codings.count "chunked".toList ≠ 1 then
    throw (badRequest "Request Transfer-Encoding must end with one chunked coding")
  else if codings.any fun coding => coding ∉ knownTransferCodings then
    throw (.http1 "Transfer coding is not supported" 501)
  else return ()

/-- Validate framing even though the endpoint replies without consuming content. -/
def validateFraming (headers : List (Text × Text)) : Except Exn Unit := do
  let lengths := fieldTexts headers "content-length"
  let encodings := fieldTexts headers "transfer-encoding"
  if lengths ≠ [] ∧ encodings ≠ [] then
    throw (badRequest "Transfer-Encoding and Content-Length cannot be combined")
  else
    if lengths ≠ [] then validateLengths lengths
    if encodings ≠ [] then validateEncodings encodings

/-! ### The whole head -/

/-- `bytes.decode("ascii")`, or nothing when it raises. -/
def decodeAscii (octets : Bytes) : Option Text :=
  if octets.all (· < 0x80) then some (asText octets) else none

def isSpaceOrTab (octet : UInt8) : Bool := octet = 0x20 || octet = 0x09

/-- The octets a field value must not contain. -/
def isControlOctet (octet : UInt8) : Bool := octet < 0x20 && octet ≠ 0x09 || octet = 0x7F

/-- `HTTP/`, a digit, a dot and a digit. -/
def isVersion : Bytes → Bool
  | [0x48, 0x54, 0x54, 0x50, 0x2F, major, 0x2E, minor] =>
    0x30 ≤ major && major ≤ 0x39 && 0x30 ≤ minor && minor ≤ 0x39
  | _ => false

/-- `HTTP/1.1` -/
def supportedVersion : Bytes := [0x48, 0x54, 0x54, 0x50, 0x2F, 0x31, 0x2E, 0x31]

/-- The method and the target of a request line. -/
def parseRequestLine (library : UriLibrary) (line : Bytes) : Except Exn (Text × Text) :=
  match split [0x20] line with
  | [rawMethod, rawTarget, version] =>
    if rawMethod = [] ∨ rawTarget = [] ∨ version = [] then .error (badRequest "Invalid request line")
    else
      match decodeAscii rawMethod, decodeAscii rawTarget with
      | some method, some target =>
        if ¬ isTokenText method then .error (badRequest "Invalid request method")
        else if version ≠ supportedVersion then
          .error (.http1 "HTTP version is not supported" (if isVersion version then 505 else 400))
        else (asHttp1Error (validateTarget library method target)).map fun _ => (method, target)
      | _, _ => .error (badRequest "Request line must be ASCII")
  | _ => .error (badRequest "Invalid request line")

/-- The name and the value of one field line. -/
def parseField (line : Bytes) : Except Exn (Text × Text) :=
  if line.head?.any isSpaceOrTab then
    .error (badRequest "Folded or whitespace-prefixed header field")
  else
    match cut 0x3A line with
    | (_, none) => .error (badRequest "Header field has no colon")
    | (rawName, some value) =>
      match decodeAscii rawName with
      | none => .error (badRequest "Invalid header field name")
      | some name =>
        if ¬ isTokenText name then .error (badRequest "Invalid header field name")
        else if value.any isControlOctet then
          .error (badRequest "Invalid control character in header field")
        else .ok (name, asText (trim isSpaceOrTab value))

/-- There is one Host field, and it holds an authority. -/
def checkHost (library : UriLibrary) (headers : List (Text × Text)) : Except Exn Unit :=
  match fieldTexts headers "host" with
  | [host] =>
    (asHttp1Error (asValueError (validateAuthority library.ipv6Compressed host false))).map
      fun _ => ()
  | _ => .error (badRequest "Exactly one Host header field is required")

/-- An initial empty line is ignored. -/
def skipEmptyLine : List Bytes → List Bytes
  | [] :: lines => lines
  | lines => lines

/-- Parse the lines of a head. -/
def parseLines (library : UriLibrary) (rawHead : Bytes) (lines : List Bytes) :
    Except Exn HTTP1Request :=
  match lines with
  | [] => .error (badRequest "Invalid request line ending")
  | requestLine :: fieldLines =>
    if lines.any fun line => line.contains 0x0D || line.contains 0x0A then
      .error (badRequest "Invalid request line ending")
    else do
      let (method, path) ← parseRequestLine library requestLine
      let headers ← fieldLines.mapM parseField
      checkHost library headers
      validateFraming headers
      return { method, path, headers, rawHead }

/-- Validate the first complete head; preserve header names and order. -/
def parseRequest (library : UriLibrary) (raw : Bytes) : Except Exn HTTP1Request := do
  checkHeadSize raw false
  match find? headEnd raw with
  | none => throw (badRequest "Request head was not terminated")
  | some position =>
    parseLines library (raw.take (position + headEnd.length))
      (skipEmptyLine (split crlf (raw.take position)))

end SolveTls
