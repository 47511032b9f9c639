import SolveTls.Http1.Request
import SolveTls.Http2.Session

/-! What a client asked for, whatever the version and the form of its request. -/

namespace SolveTls

def faviconPath : Text := "/favicon.ico".toList

/-- HTTP/2 fields as text. -/
def textFields (headers : List Field) : List (Text × Text) :=
  headers.map fun (name, value) => (asText name, asText value)

/-- The value of the first field with a lower-case name, however the field spells it. -/
def header (headers : Option (List (Text × Text))) (name : String) : Option Text :=
  ((headers.getD []).find? fun field => lower field.1 = name.toList).map Prod.snd

/-- The version a connection has negotiated. -/
inductive HttpVersion where
  /-- `HTTP/1.1` -/
  | http1
  /-- `HTTP/2.0` -/
  | http2
  deriving DecidableEq, Repr

/-- The attributes of a client connection that hold its request. -/
structure ClientRequest where
  httpVersion : Option HttpVersion := none
  http1 : Option HTTP1Request := none
  http2 : Option HTTP2Capture := none

namespace ClientRequest

variable (library : UriLibrary) (client : ClientRequest)

def requestMethod : Option Text :=
  match client.http2 with
  | some capture => header (capture.headers.map textFields) ":method"
  | none => client.http1.map HTTP1Request.method

def requestPath : Option Text :=
  match client.http2 with
  | some capture => header (capture.headers.map textFields) ":path"
  | none => client.http1.map HTTP1Request.path

/-- The path that decides about the response; the report keeps the whole target. -/
def routingPath : Except String (Option Text) :=
  let target := client.requestPath.getD []
  if target = [] ∨ client.requestMethod = some "CONNECT".toList then .ok none
  else if client.httpVersion = some .http2 ∨ target.head? = some '/' ∨ target = ['*'] then
    -- An origin-form target that begins with two slashes has no authority.
    .ok (some (partition '?' target).1)
  else
    (splitAbsoluteUri library target).map fun parsed =>
      some (if parsed.path = [] then ['/'] else parsed.path)

/-- Whether the Expect fields of an HTTP/1.1 request cannot be met. -/
def expectationFailed : Bool :=
  let headers := (client.http1.map HTTP1Request.headers).getD []
  match parseHttpTexts (fieldTexts headers "expect") with
  | .ok members => HTTP2Session.unknownExpectation (members.map lower)
  | .error _ => true

/-- The status of the response, and the error it reports. -/
def responsePolicy : Except String (Nat × Option String) := do
  let path ← client.routingPath library
  if path = some faviconPath then return (204, none)
  else if client.expectationFailed ∨ client.http2.any HTTP2Capture.expectationFailed then
    return (417, some "Unsupported expectation")
  else if client.requestMethod = some "CONNECT".toList then
    return (501, some "CONNECT tunnels are not supported")
  else return (200, none)

end ClientRequest

end SolveTls
