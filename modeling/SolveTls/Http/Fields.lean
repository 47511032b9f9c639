import SolveTls.Base.Dict
import SolveTls.Base.Octets

/-! HTTP field text: Latin-1 decoding, comma-separated lists and response framing. -/

namespace SolveTls

/-- Text decoded from field octets, one character per octet. -/
abbrev Text := List Char

/-- Map HTTP field octets reversibly to characters. -/
def asText (value : Bytes) : Text := value.map fun octet => Char.ofNat octet.toNat

/-- The lower-case form of a Latin-1 character. -/
def lowerChar (char : Char) : Char :=
  -- The two alphabets are 0x41..0x5A and 0xC0..0xDE without the multiplication sign.
  if 0x41 ≤ char.toNat ∧ char.toNat ≤ 0x5A ∨
      0xC0 ≤ char.toNat ∧ char.toNat ≤ 0xDE ∧ char.toNat ≠ 0xD7 then
    Char.ofNat (char.toNat + 0x20)
  else
    char

def lower (text : Text) : Text := text.map lowerChar

/-- The lower-case form of ASCII octets, which field names are. -/
def lowerOctets (octets : Bytes) : Bytes :=
  octets.map fun octet => if 0x41 ≤ octet ∧ octet ≤ 0x5A then octet + 0x20 else octet

/-- The octets of an ASCII literal of the source. -/
def ascii (literal : String) : Bytes := literal.toList.map fun char => UInt8.ofNat char.toNat

/-- The decimal digits of a number, as octets. -/
def decimalOctets (value : Nat) : Bytes :=
  (Nat.toDigits 10 value).map fun char => UInt8.ofNat char.toNat

/-- Whether octets are a non-empty run of ASCII digits. -/
def isDigits (value : Bytes) : Bool := !value.isEmpty && value.all fun octet => 0x30 ≤ octet && octet ≤ 0x39

/-- Remove leading `0` digits. -/
def stripZeros (value : Bytes) : Bytes := value.dropWhile (· = 0x30)

/-- The integer a run of decimal digits denotes. -/
def decimalValue (digits : Bytes) : Nat :=
  digits.foldl (fun high digit => high * 10 + (digit.toNat - 0x30)) 0

def isBlank (char : Char) : Bool := char = ' ' || char = '\t'

/-- Remove spaces and tabs on both sides. -/
def strip (text : Text) : Text := ((text.dropWhile isBlank).reverse.dropWhile isBlank).reverse

/-- Keep a finished list member unless it is empty. -/
def appendMember (result : List Text) (current : Text) : List Text :=
  if strip current = [] then result else result ++ [strip current]

/--
Scan the joined text one character at a time.

`current` is what has been read since the last separating comma.
-/
def parseListLoop : Text → List Text → Text → (quoted escaped : Bool) → Except String (List Text)
  | [], result, current, quoted, escaped =>
    if quoted ∨ escaped then .error "Unterminated quoted HTTP list member"
    else .ok (appendMember result current)
  | char :: rest, result, current, quoted, escaped =>
    if escaped then parseListLoop rest result (current ++ [char]) quoted false
    else if quoted ∧ char = '\\' then parseListLoop rest result (current ++ [char]) quoted true
    else if char = '"' then parseListLoop rest result (current ++ [char]) (!quoted) false
    else if char = ',' ∧ ¬ quoted then
      parseListLoop rest (appendMember result current) [] quoted false
    else parseListLoop rest result (current ++ [char]) quoted false

/-- Split comma-separated members, respecting quoted strings and escapes. -/
def parseHttpList (values : List Bytes) : Except String (List Text) :=
  parseListLoop (List.intercalate [','] (values.map asText)) [] [] false false

/-- Lower-case Expect members, without splitting quoted parameters. -/
def parseExpectations (values : List Bytes) : Except String (List Text) :=
  (parseHttpList values).map fun members => members.map lower

/-- The content and headers that are really sent for a status. -/
def prepareResponse (content : Bytes) (headers : Dict Bytes Bytes) (statusCode : Nat) :
    Bytes × Dict Bytes Bytes :=
  let normalized := Dict.ofItems (headers.map fun (name, value) => (lowerOctets name, value))
  if statusCode = 204 ∨ statusCode = 304 ∨ 100 ≤ statusCode ∧ statusCode < 200 then
    ([], normalized.pop (ascii "content-length"))
  else
    (content, normalized.set (ascii "content-length") (decimalOctets content.length))

end SolveTls
