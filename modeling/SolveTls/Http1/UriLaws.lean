import SolveTls.Http1.Request

/-! The documented behaviour of the URI functions of the standard library. -/

namespace SolveTls

/-- A character that a URI may be written with. -/
def isPrintable (char : Char) : Bool := 32 < char.toNat && char.toNat < 127

/-- Text that octets can be decoded to. -/
def IsLatin1 (text : Text) : Prop := ∀ char ∈ text, char.toNat < 256

/-- The parts of a URI without a fragment, given its scheme and what follows the colon. -/
def uriParts (scheme remainder : Text) : SplitResult :=
  match remainder with
  | '/' :: '/' :: rest =>
    let behind := partition '?' (rest.dropWhile isAuthorityChar)
    { scheme := lower scheme, netloc := rest.takeWhile isAuthorityChar
      path := behind.1, query := behind.2.getD [] }
  | _ =>
    let behind := partition '?' remainder
    { scheme := lower scheme, netloc := [], path := behind.1, query := behind.2.getD [] }

/-- What the documentation of `ipaddress` and `urllib.parse` promises. -/
structure UriLibrary.Documented (library : UriLibrary) : Prop where
  /-- An address without a scope consists of hexadecimal digits, colons and dots. -/
  ipv6 : ∀ text, '%' ∉ text → (library.ipv6Compressed text).isSome →
    ∀ char ∈ text, isHexDigit char = true ∨ char = ':' ∨ char = '.'
  /-- A URI of printable characters without a fragment is split into its parts, or refused. -/
  splits : ∀ target scheme remainder parsed, target.all isPrintable = true → '#' ∉ target →
    schemeOf target = some (scheme, remainder) → library.urlsplit target = .ok parsed →
      parsed = uriParts scheme remainder

/-- A library that knows one IPv6 address, and refuses other brackets. -/
def referenceUris : UriLibrary where
  urlsplit target :=
    match schemeOf target with
    | some (scheme, remainder) =>
      let parts := uriParts scheme remainder
      if parts.netloc.contains '[' ≠ parts.netloc.contains ']' then .error "Invalid IPv6 URL"
      else .ok parts
    | none => .ok { scheme := [], netloc := [], path := target, query := [] }
  ipv6Compressed text := if text = "::1".toList then some text else none

theorem referenceUris_documented : referenceUris.Documented where
  ipv6 text _ known := by
    -- The one address is spelled out.
    have same : text = [':', ':', '1'] := by simpa [referenceUris] using known
    intro char among
    simp only [same, List.mem_cons, List.not_mem_nil, or_false] at among
    rcases among with rfl | rfl | rfl
    · exact .inr (.inl rfl)
    · exact .inr (.inl rfl)
    · exact .inl rfl
  splits target scheme remainder parsed _ _ found split := by
    simp only [referenceUris, found] at split
    split at split
    · cases split
    · exact (Except.ok.inj split).symm

end SolveTls
