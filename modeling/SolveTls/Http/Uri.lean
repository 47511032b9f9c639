import SolveTls.Http.Fields

/-! URI authorities, paths and queries, checked character by character. -/

namespace SolveTls

def isAlpha (char : Char) : Bool :=
  'a' ≤ char && char ≤ 'z' || 'A' ≤ char && char ≤ 'Z'

def isDigit (char : Char) : Bool := '0' ≤ char && char ≤ '9'

def isHexDigit (char : Char) : Bool :=
  isDigit char || 'a' ≤ char && char ≤ 'f' || 'A' ≤ char && char ≤ 'F'

/-- The characters that mean themselves in every part of a URI. -/
def isUnreserved (char : Char) : Bool := isAlpha char || isDigit char || "-._~".toList.contains char

def isSubDelim (char : Char) : Bool := "!$&'()*+,;=".toList.contains char

/-- Characters of a class and complete percent escapes, and nothing else. -/
def isEscaped (allowed : Char → Bool) : Text → Bool
  | [] => true
  | '%' :: high :: low :: rest => isHexDigit high && isHexDigit low && isEscaped allowed rest
  | char :: rest => allowed char && isEscaped allowed rest

def isRegNameChar (char : Char) : Bool := isUnreserved char || isSubDelim char

def isPathChar (char : Char) : Bool := isRegNameChar char || ":@/".toList.contains char

def isQueryChar (char : Char) : Bool := isPathChar char || char = '?'

def isRegName (text : Text) : Bool := isEscaped isRegNameChar text

/-- The letters beyond ASCII that `[A-Za-z]` matches where case is ignored. -/
def foldsToLetter (char : Char) : Bool := "\u0130\u0131\u017F\u212A".toList.contains char

/-- `v`, hexadecimal digits, a dot and at least one further character, where case is ignored. -/
def isIpvFuture : Text → Bool
  | first :: rest =>
    let version := rest.takeWhile isHexDigit
    match rest.dropWhile isHexDigit with
    | '.' :: tail =>
      lowerChar first = 'v' && !version.isEmpty && !tail.isEmpty &&
        tail.all fun char => isRegNameChar char || char = ':' || foldsToLetter char
    | _ => false
  | [] => false

/-- The text before a separator, and what follows it if it occurs. -/
def partition (separator : Char) (text : Text) : Text × Option Text :=
  match text.dropWhile (· ≠ separator) with
  | [] => (text, none)
  | _ :: rest => (text.takeWhile (· ≠ separator), some rest)

/-- Remove leading `0` characters, keeping one digit of a non-empty number. -/
def significantDigits (port : Text) : Text :=
  if port.dropWhile (· = '0') = [] then ['0'] else port.dropWhile (· = '0')

/-- The integer a run of decimal digits denotes. -/
def textValue (digits : Text) : Nat :=
  digits.foldl (fun high digit => high * 10 + (digit.toNat - '0'.toNat)) 0

/-- The host and the port text of an authority, before the port is checked. -/
def splitAuthority (ipv6Compressed : Text → Option Text) (authority : Text) :
    Except String (Text × Option Text) :=
  match authority with
  | '[' :: literal =>
    match partition ']' literal with
    | (_, none) => .error "Invalid IP literal in authority"
    | (host, some suffix) =>
      if suffix ≠ [] ∧ suffix.head? ≠ some ':' then .error "Invalid authority after IP literal"
      else if isIpvFuture host ∨ (¬ host.contains '%' ∧ (ipv6Compressed host).isSome) then
        .ok (host, if suffix = [] then none else some (suffix.drop 1))
      else .error "Invalid IP literal in authority"
  | _ =>
    match partition ':' authority with
    | (host, port) => if isRegName host then .ok (host, port) else .error "Invalid host in authority"

/-- The checks on the port of an authority. -/
def validatePort (connect : Bool) (port : Text) : Except String Unit :=
  let significant := significantDigits port
  if port ≠ [] ∧ ¬ port.all isDigit then .error "Invalid port in authority"
  else if significant.length > 5 ∨ textValue significant > 65535 then
    .error "Port is out of range"
  else if connect ∧ significant = ['0'] then .error "CONNECT port must be nonzero"
  else .ok ()

/-- Validate uri-host and optional port, or the mandatory CONNECT host:port. -/
def validateAuthority (ipv6Compressed : Text → Option Text) (authority : Text) (connect : Bool) :
    Except String Text := do
  let (host, port) ← splitAuthority ipv6Compressed authority
  if connect ∧ (host = [] ∨ port.getD [] = []) then
    throw "CONNECT requires a host and explicit port"
  else
    match port with
    | none => return host
    | some port =>
      validatePort connect port
      return host

/-- The value of a hexadecimal digit. -/
def hexValue (char : Char) : Nat :=
  if isDigit char then char.toNat - '0'.toNat
  else (lowerChar char).toNat - 'a'.toNat + 10

/-- The upper-case form of a lower-case hexadecimal digit. -/
def upperHex (char : Char) : Char :=
  if isDigit char then char else Char.ofNat (char.toNat - 0x20)

/-- Decode escapes of unreserved characters and upper-case the others, in a lower-case host. -/
def normalizeEscapes : Text → Text
  | [] => []
  | '%' :: high :: low :: rest =>
    if isHexDigit high ∧ isHexDigit low then
      let char := Char.ofNat (hexValue high * 16 + hexValue low)
      (if isUnreserved char then [lowerChar char] else ['%', upperHex high, upperHex low]) ++
        normalizeEscapes rest
    else '%' :: normalizeEscapes (high :: low :: rest)
  | char :: rest => char :: normalizeEscapes rest

/-- `str.lower` of a host that may contain letters beyond ASCII; one of them becomes two characters. -/
def lowerFolded (host : Text) : Text :=
  host.flatMap fun char =>
    if char = '\u0130' then ['i', '\u0307']
    else if char = '\u212A' then ['k']
    else [lowerChar char]

/-- The port a scheme stands for when none is given. -/
def defaultPort (scheme : Text) : Option Nat :=
  if lower scheme = "http".toList then some 80
  else if lower scheme = "https".toList then some 443
  else none

/-- Compare URI authorities without changing the reported spelling. -/
def normalizeAuthority (ipv6Compressed : Text → Option Text) (authority scheme : Text)
    (connect : Bool) : Except String (Text × Option Nat) := do
  let host ← validateAuthority ipv6Compressed authority connect
  let portText := match authority with
    | '[' :: literal => ((partition ']' literal).2.getD []).drop 1
    | _ => (partition ':' authority).2.getD []
  let normalizedHost := match authority with
    | '[' :: _ =>
      '[' :: (if isIpvFuture host then lowerFolded host else (ipv6Compressed host).getD []) ++ [']']
    | _ => normalizeEscapes (lower host)
  let port := if portText = [] then defaultPort scheme
    else some (textValue (significantDigits portText))
  return (normalizedHost, port)

/-- Validate URI path and query octets, including complete percent escapes. -/
def validatePathQuery (path query : Text) : Except String Unit :=
  if isEscaped isPathChar path ∧ isEscaped isQueryChar query then .ok ()
  else .error "Invalid path or query"

end SolveTls
