import SolveTls.Http1.Request

/-! What authorities are made of and what their parts mean, independent of any parser. -/

namespace SolveTls

open Search

/-! ### Hosts -/

/-- An item of a registered name: a character that is allowed as such, or the escape of an octet. -/
inductive NameItem where
  | plain (char : Char) (allowed : isRegNameChar char = true)
  | escape (high low : Char) (digits : isHexDigit high = true ∧ isHexDigit low = true)

def NameItem.text : NameItem → Text
  | .plain char _ => [char]
  | .escape high low _ => ['%', high, low]

/-- The number of an IPv6 group, which has one to four hexadecimal digits. -/
def hexGroup (text : Text) : Option Nat :=
  if text ≠ [] ∧ text.length ≤ 4 ∧ text.all isHexDigit then
    some (text.foldl (fun high digit => high * 16 + hexValue digit) 0)
  else none

/-- The number of an IPv4 octet, which has no leading zeros. -/
def ipv4Octet (text : Text) : Option Nat :=
  if text ≠ [] ∧ text.length ≤ 3 ∧ text.all isDigit ∧ (text.length = 1 ∨ text.head? ≠ some '0') ∧
      textValue text ≤ 255 then
    some (textValue text)
  else none

/-- The two groups that an IPv4 address stands for. -/
def ipv4Groups (text : Text) : Option (List Nat) :=
  match split ['.'] text with
  | [first, second, third, fourth] => do
    let first ← ipv4Octet first
    let second ← ipv4Octet second
    let third ← ipv4Octet third
    let fourth ← ipv4Octet fourth
    return [first * 256 + second, third * 256 + fourth]
  | _ => none

/-- The groups between colons, of which the very last two may be an IPv4 address. -/
def ipv6Groups (dotted : Bool) : List Text → Option (List Nat)
  | [] => some []
  | [last] =>
    if dotted ∧ last.contains '.' then ipv4Groups last else (hexGroup last).map fun group => [group]
  | piece :: rest => do
    let group ← hexGroup piece
    let groups ← ipv6Groups dotted rest
    return group :: groups

/-- The groups on one side of a double colon, where there may be none. -/
def ipv6Side (dotted : Bool) (text : Text) : Option (List Nat) :=
  if text = [] then some [] else ipv6Groups dotted (split [':'] text)

/-- The eight groups of an IPv6 address, where a double colon stands for one or more zeros. -/
def ipv6Address (text : Text) : Option (List Nat) :=
  match find? [':', ':'] text with
  | none => (ipv6Groups true (split [':'] text)).filter fun groups => groups.length = 8
  | some position => do
    let high ← ipv6Side false (text.take position)
    let low ← ipv6Side true (text.drop (position + 2))
    if high.length + low.length ≤ 7 then
      return high ++ List.replicate (8 - (high.length + low.length)) 0 ++ low
    else none

/-- A host: a registered name, or what stands in brackets. -/
inductive Host where
  | name (items : List NameItem)
  | ipv6 (text : Text) (groups : List Nat) (denotes : ipv6Address text = some groups)
  | future (mark : Char) (version : Text) (address : Text) (marked : lowerChar mark = 'v')
    (versioned : version ≠ [] ∧ version.all isHexDigit = true)
    (addressed : address ≠ [] ∧ address.all (fun char => isRegNameChar char || char = ':') = true)

namespace Host

/-- The host without brackets. -/
def text : Host → Text
  | .name items => items.flatMap NameItem.text
  | .ipv6 text _ _ => text
  | .future mark version address _ _ _ => mark :: (version ++ '.' :: address)

/-- The host as it stands in an authority. -/
def written : Host → Text
  | .name items => items.flatMap NameItem.text
  | host => '[' :: (host.text ++ [']'])

end Host

/-! ### Authorities -/

/-- A port behind its colon, or nothing. -/
def portSuffix (port : Option Text) : Text := (port.map (':' :: ·)).getD []

/-- A host and an optional port, which may be empty. -/
structure Authority where
  host : Host
  port : Option Text
  numeric : (port.getD []).all isDigit = true
  bounded : textValue (port.getD []) ≤ 65535

namespace Authority

def text (authority : Authority) : Text := authority.host.written ++ portSuffix authority.port

/-- A tunnel needs a host and a port that is not zero. -/
def Connectable (authority : Authority) : Prop :=
  authority.host.text ≠ [] ∧ ∃ digits, authority.port = some digits ∧ textValue digits ≠ 0

end Authority

/-! ### Meanings -/

/-- What an item of a name means: a character without its case, or an octet that is none. -/
inductive NameMeaning where
  | character (char : Char)
  | octet (value : Nat)
  deriving DecidableEq, Repr

/-- An escape of an unreserved character means that character. -/
def NameItem.meaning : NameItem → NameMeaning
  | .plain char _ => .character (lowerChar char)
  | .escape high low _ =>
    let value := hexValue high * 16 + hexValue low
    if isUnreserved (Char.ofNat value) then .character (lowerChar (Char.ofNat value)) else .octet value

/-- Hosts that name the same, up to escapes and case or up to the spelling of an address. -/
def Host.Equivalent : Host → Host → Prop
  | .name first, .name second => first.map NameItem.meaning = second.map NameItem.meaning
  | .ipv6 _ first _, .ipv6 _ second _ => first = second
  | .future mark version address _ _ _, .future mark' version' address' _ _ _ =>
    lower (mark :: (version ++ '.' :: address)) = lower (mark' :: (version' ++ '.' :: address'))
  | _, _ => False

/-- The number of the port, for which the default of the scheme stands if it is missing or empty. -/
def Authority.effectivePort (authority : Authority) (scheme : Text) : Option Nat :=
  if authority.port.getD [] = [] then defaultPort scheme
  else some (textValue (authority.port.getD []))

/-- A normalized host and port, written as an authority. -/
def renderAuthority (host : Text) (port : Option Nat) : Text :=
  host ++ portSuffix (port.map (Nat.toDigits 10))

/-! ### Conversions -/

/-- Whether `len(significant) > 5 or int(significant) > 65535`, where `int` may raise anything. -/
def portOutOfRange (int : Text → Except Exn Nat) (significant : Text) : Except Exn Bool :=
  if significant.length > 5 then .ok true else (int significant).map fun value => value > 65535

/-- The checks on the port of an authority, with `int` as a parameter. -/
def validatePortWith (int : Text → Except Exn Nat) (connect : Bool) (port : Text) :
    Except Exn Unit :=
  let significant := significantDigits port
  if port ≠ [] ∧ ¬ port.all isDigit then .error (.value "Invalid port in authority")
  else do
    let large ← portOutOfRange int significant
    if large then throw (.value "Port is out of range")
    else if connect ∧ significant = ['0'] then throw (.value "CONNECT port must be nonzero")
    else return ()

/-- Validate an authority, with `int` as a parameter. -/
def validateAuthorityWith (int : Text → Except Exn Nat) (ipv6Compressed : Text → Option Text)
    (authority : Text) (connect : Bool) : Except Exn Text := do
  let (host, port) ← asValueError (splitAuthority ipv6Compressed authority)
  if connect ∧ (host = [] ∨ port.getD [] = []) then
    throw (.value "CONNECT requires a host and explicit port")
  else
    match port with
    | none => return host
    | some port =>
      validatePortWith int connect port
      return host

/-! ### What the library promises -/

/-- `int` converts decimal digits, as far as there are at most five of them. -/
def ConvertsFive (int : Text → Except Exn Nat) : Prop :=
  ∀ digits : Text, digits ≠ [] → digits.all isDigit = true → digits.length ≤ 5 →
    int digits = .ok (textValue digits)

/-- `IPv6Address` accepts exactly the text of IPv6 addresses, apart from scopes. -/
def Ipv6Exact (ipv6Compressed : Text → Option Text) : Prop :=
  ∀ text, '%' ∉ text → (ipv6Compressed text).isSome = (ipv6Address text).isSome

/-- `IPv6Address.compressed` is one text for each address, and denotes it. -/
structure Ipv6Canonical (ipv6Compressed : Text → Option Text) (render : List Nat → Text) : Prop where
  compressed : ∀ text, '%' ∉ text → ipv6Compressed text = (ipv6Address text).map render
  canonical : ∀ text groups, ipv6Address text = some groups →
    ipv6Address (render groups) = some groups

end SolveTls
