import SolveTls.Http1.RequestFormat

/-! Redirecting plain HTTP requests to their HTTPS location. -/

namespace SolveTls

namespace Redirect

/-- The authority and the path-and-query that a request is redirected to. -/
def redirectParts (library : UriLibrary) (request : HTTP1Request) : Except Exn (Text × Text) :=
  let target := request.path
  if target.head? = some '/' then
    match fieldTexts request.headers "host" with
    | authority :: _ => .ok (authority, target)
    | [] => .error (.other "StopIteration")
  else
    match splitAbsoluteUri library target with
    | .error message => .error (.value message)
    | .ok parsed =>
      if parsed.scheme ≠ "http".toList ∧ parsed.scheme ≠ "https".toList then
        .error (badRequest "Only HTTP request targets can be redirected")
      else
        -- Slice the original target so even a trailing empty '?' is preserved.
        let path := target.drop (parsed.scheme.length + 3 + parsed.netloc.length)
        .ok (parsed.netloc, if path.head? = some '/' then path else '/' :: path)

/-- The port of a location, which is left out if it is the default one. -/
def portText (httpsPort : Nat) : Text :=
  if httpsPort = 443 then [] else ':' :: Nat.toDigits 10 httpsPort

/-- Build an HTTPS location from a validated HTTP/1.1 request. -/
def redirectLocation (library : UriLibrary) (request : HTTP1Request) (httpsPort : Nat) :
    Except Exn Text :=
  if request.method = "CONNECT".toList then
    .error (.http1 "CONNECT tunnels are not supported" 501)
  else if request.path = ['*'] then .error (badRequest "A redirect requires a request path")
  else do
    let (authority, path) ← redirectParts library request
    let host ← asValueError (validateAuthority library.ipv6Compressed authority false)
    if host = [] then throw (badRequest "A redirect requires a host")
    else
      let host := if authority.head? = some '[' then '[' :: host ++ [']'] else host
      return "https://".toList ++ host ++ portText httpsPort ++ path

/-! ### Where a redirect should lead -/

/-- A host as it is spelled: an IP literal in brackets, or a name without brackets and colons. -/
def IsHost (host : Text) : Prop :=
  (∃ literal, host = '[' :: literal ++ [']'] ∧ ']' ∉ literal) ∨ ':' ∉ host ∧ host.head? ≠ some '['

/-- The host of an authority, which is all of it but the port. -/
def HostOf (authority host : Text) : Prop :=
  IsHost host ∧ (authority = host ∨ ∃ port, port.all isDigit = true ∧ authority = host ++ ':' :: port)

/-- The authority a request is meant for, and the path and query that it asks for there. -/
inductive Asks (request : HTTP1Request) : (authority remainder : Text) → Prop where
  | originForm {authority : Text} (path : request.path.head? = some '/')
    (host : fieldTexts request.headers "host" = [authority]) :
    Asks request authority request.path
  | absoluteForm {scheme authority behind : Text}
    (target : request.path = scheme ++ "://".toList ++ authority ++ behind)
    (http : lower scheme = "http".toList ∨ lower scheme = "https".toList)
    (whole : authority.all isAuthorityChar = true)
    (ends : behind.head?.all fun char => !isAuthorityChar char) :
    -- An empty path is the root; a query keeps its place behind it.
    Asks request authority (if behind.head? = some '/' then behind else '/' :: behind)

/-- The head of a request for a path at a host. -/
def requestFor (authority remainder : Text) : RequestHead where
  leading := false
  method := ascii "GET"
  target := asOctets remainder
  fields := [{ name := ascii "Host", before := [0x20], value := asOctets authority, after := [] }]

end Redirect

end SolveTls
