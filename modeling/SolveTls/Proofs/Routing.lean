import SolveTls.Proofs.Redirect
import SolveTls.Routing

/-! Request targets are taken apart in one way, whatever their form and the version. -/

namespace SolveTls

open Search List

variable {ipv6Compressed : Text → Option Text} {authority target scheme remainder method : Text}
  {host : Option Text} {connect : Bool} {library : UriLibrary}

/-! ### Escapes -/

/-- Every percent sign begins an escape of two hexadecimal digits. -/
def EscapesComplete (text : Text) : Prop :=
  ∀ before after, text = before ++ '%' :: after → ∃ high low rest,
    after = high :: low :: rest ∧ isHexDigit high = true ∧ isHexDigit low = true

namespace EscapesComplete

variable {front back text : Text}

theorem of_not_mem (absent : '%' ∉ text) : EscapesComplete text := by
  intro before after whole
  exact absurd (by simp [whole]) absent

/-- An escape is not completed by what stands behind a text. -/
theorem append (first : EscapesComplete front) (second : EscapesComplete back) :
    EscapesComplete (front ++ back) := by
  intro before after whole
  obtain ⟨between, ahead, behind⟩ | ⟨between, ahead, behind⟩ := append_eq_append_iff.mp whole
  · -- The percent sign is behind the seam.
    exact second between after behind
  · cases between with
    | nil => exact second [] after (by simpa using behind.symm)
    | cons percent more =>
      -- It is before the seam, and so are its digits.
      obtain ⟨rfl, rfl⟩ := List.cons.inj behind
      obtain ⟨high, low, rest, rfl, digits⟩ := first before more ahead
      exact ⟨high, low, rest ++ back, rfl, digits⟩

theorem cons {char : Char} (other : char ≠ '%') (complete : EscapesComplete text) :
    EscapesComplete (char :: text) := by
  have single : EscapesComplete [char] := of_not_mem (by simpa using other.symm)
  exact single.append complete

/-- Neither digit of an escape is a percent sign. -/
theorem escape {high low : Char} (digit : isHexDigit high = true) (digit' : isHexDigit low = true) :
    EscapesComplete ['%', high, low] := by
  have ne_percent {char : Char} (hex : isHexDigit char = true) : char ≠ '%' := by
    intro same
    rw [same] at hex
    exact absurd hex (by decide)
  intro before after whole
  match before with
  | [] =>
    obtain ⟨-, rfl⟩ := List.cons.inj whole
    exact ⟨high, low, [], rfl, digit, digit'⟩
  | [_] =>
    simp only [cons_append, nil_append, List.cons.injEq] at whole
    exact absurd whole.2.1 (ne_percent digit)
  | [_, _] =>
    simp only [cons_append, nil_append, List.cons.injEq] at whole
    exact absurd whole.2.2.1 (ne_percent digit')
  | _ :: _ :: _ :: _ => simp at whole

theorem of_isEscaped {allowed : Char → Bool} (percent : allowed '%' = false)
    (escaped : isEscaped allowed text = true) : EscapesComplete text := by
  -- The induction follows the validator, which takes an escape or one character of the class.
  induction text using isEscaped.induct with
  | case1 => exact of_not_mem (by simp)
  | case2 high low rest ih =>
    simp only [isEscaped, Bool.and_eq_true] at escaped
    exact (escape escaped.1.1 escaped.1.2).append (ih escaped.2)
  | case3 first rest noEscape ih =>
    rw [isEscaped] at escaped
    · simp only [Bool.and_eq_true] at escaped
      apply cons _ (ih escaped.2)
      intro same
      rw [same, percent] at escaped
      cases escaped.1
    · exact noEscape

end EscapesComplete

/-! ### Authorities -/

/-- The port of a valid authority consists of digits. -/
theorem portDigits_of_validateAuthority {host : Text}
    (valid : validateAuthority ipv6Compressed authority connect = .ok host) :
    ∃ port, splitAuthority ipv6Compressed authority = .ok (host, port) ∧
      (portSuffix port).all (fun char => char = ':' || isDigit char) = true := by
  obtain ⟨port, split, -, checked⟩ := validateAuthority_eq_ok.mp valid
  refine ⟨port, split, ?_⟩
  cases port with
  | none => rfl
  | some text =>
    have digits := all_eq_true.mp (validatePort_eq_ok.mp (checked text rfl)).1
    rw [portSuffix, Option.map_some, Option.getD_some, all_cons, Bool.and_eq_true, all_eq_true]
    refine ⟨by decide, ?_⟩
    intro char among
    simp [digits char among]

/-- A valid authority has whole escapes. -/
theorem escapesComplete_of_validateAuthority {host : Text}
    (valid : validateAuthority ipv6Compressed authority connect = .ok host) :
    EscapesComplete authority := by
  obtain ⟨port, split, digits⟩ := portDigits_of_validateAuthority valid
  have ported : EscapesComplete (portSuffix port) := by
    apply EscapesComplete.of_not_mem
    intro among
    exact absurd (all_eq_true.mp digits _ among) (by decide)
  obtain ⟨rfl, -, literal⟩ | ⟨rfl, named⟩ := splitAuthority_eq_ok.mp split
  · -- A literal has no escapes, whichever of the two it is.
    have absent : '%' ∉ host := by
      obtain future | ⟨unscoped, -⟩ := literal
      · intro among
        exact absurd (mem_of_isIpvFuture future among) (by decide)
      · exact unscoped
    apply EscapesComplete.cons (by decide)
    exact (EscapesComplete.of_not_mem absent).append (ported.cons (by decide))
  · exact (EscapesComplete.of_isEscaped (by decide) named).append ported

theorem hash_not_mem_authority (documented : library.Documented) {host : Text}
    (valid : validateAuthority library.ipv6Compressed authority connect = .ok host) :
    '#' ∉ authority := by
  obtain ⟨port, split, digits⟩ := portDigits_of_validateAuthority valid
  have ported : '#' ∉ portSuffix port := by
    intro among
    exact absurd (all_eq_true.mp digits _ among) (by decide)
  have named : '#' ∉ host := by
    intro among
    exact absurd (mem_host documented split among) (by decide)
  obtain ⟨rfl, -⟩ | ⟨rfl, -⟩ := splitAuthority_eq_ok.mp split
  · simp [named, ported]
  · simp [named, ported]

/-! ### Targets of every form -/

/-- What is left of a target is written with a question mark before its query, or without one. -/
theorem partition_mark (text : Text) :
    ∃ mark, (mark = '?' :: (partition '?' text).2.getD [] ∨
        mark = [] ∧ (partition '?' text).2.getD [] = []) ∧
      text = (partition '?' text).1 ++ mark := by
  rw [partition_eq_cut]
  cases cutting : cut '?' text with
  | mk path query =>
    cases query with
    | none =>
      obtain ⟨rfl, -⟩ := cut_eq_none.mp cutting
      exact ⟨[], .inr ⟨rfl, rfl⟩, by simp⟩
    | some query =>
      obtain ⟨rfl, -⟩ := cut_eq_some.mp cutting
      exact ⟨'?' :: query, .inl rfl, rfl⟩

theorem IsPathQuery.escapesComplete {text : Text} (valid : IsPathQuery text) :
    EscapesComplete text := by
  obtain ⟨mark, marked, whole⟩ := partition_mark text
  have path := EscapesComplete.of_isEscaped (by decide) valid.1
  have query := EscapesComplete.of_isEscaped (by decide) valid.2
  rw [whole]
  apply path.append
  obtain rfl | ⟨rfl, -⟩ := marked
  · exact query.cons (by decide)
  · exact EscapesComplete.of_not_mem (by simp)

/-- A path and query has no fragment. -/
theorem IsPathQuery.hash_not_mem {text : Text} (valid : IsPathQuery text) : '#' ∉ text := by
  obtain ⟨mark, marked, whole⟩ := partition_mark text
  have path : '#' ∉ (partition '?' text).1 := fun among =>
    absurd (mem_of_isEscaped valid.1 among) (by decide)
  have query : '#' ∉ (partition '?' text).2.getD [] := fun among =>
    absurd (mem_of_isEscaped valid.2 among) (by decide)
  rw [whole]
  obtain rfl | ⟨rfl, -⟩ := marked
  · simp [path, query]
  · simp [path]

/-- An absolute target with a scheme, behind which there may be an authority. -/
theorem AcceptedAbsolute.escapesComplete
    (accepted : AcceptedAbsolute library target scheme remainder host) :
    EscapesComplete target := by
  have schemed : '%' ∉ scheme := not_mem_scheme accepted.schemed (by decide) (by decide)
  obtain ⟨first, marks, rfl, -, -, rfl⟩ := schemeOf_eq_some.mp accepted.schemed
  apply (EscapesComplete.of_not_mem schemed).append
  apply EscapesComplete.cons (by decide)
  have pathQuery := validatePathQuery_eq_ok.mp accepted.pathQuery
  obtain ⟨plain, -⟩ | ⟨rest, name, rfl, -, authority⟩ :=
    targetHost_eq_ok accepted.schemed accepted.hosted
  · -- Without an authority, everything behind the scheme is path and query.
    have parts : uriParts (first :: marks) remainder =
        { scheme := lower (first :: marks), netloc := [], path := (partition '?' remainder).1
          query := (partition '?' remainder).2.getD [] } := by
      unfold uriParts
      split
      · exact absurd ⟨_, rfl⟩ plain
      · rfl
    rw [parts] at pathQuery
    exact IsPathQuery.escapesComplete pathQuery
  · have netloc : EscapesComplete (rest.takeWhile isAuthorityChar) := by
      obtain ⟨-, valid⟩ | ⟨user, behind, -, info, whole, valid⟩ := authority
      · exact escapesComplete_of_validateAuthority valid
      · rw [show rest.takeWhile isAuthorityChar = user ++ '@' :: behind from whole]
        have user' := EscapesComplete.of_isEscaped (by decide) info
        exact user'.append
          ((escapesComplete_of_validateAuthority valid).cons (by decide))
    rw [← takeWhile_append_dropWhile (p := isAuthorityChar) (l := rest)]
    apply EscapesComplete.cons (by decide)
    apply EscapesComplete.cons (by decide)
    exact netloc.append (IsPathQuery.escapesComplete pathQuery)

/-- Every form of a target is free of fragments, and its escapes are complete. -/
theorem validateTarget_clean (documented : library.Documented)
    (valid : validateTarget library method target = .ok ()) :
    '#' ∉ target ∧ EscapesComplete target := by
  unfold validateTarget at valid
  split at valid
  · -- A tunnel is requested to an authority.
    obtain ⟨host, checked, -⟩ := map_eq_ok.mp valid
    rw [asValueError_eq_ok] at checked
    exact ⟨hash_not_mem_authority documented checked, escapesComplete_of_validateAuthority checked⟩
  split at valid
  · rename_i asterisk
    subst asterisk
    exact ⟨by decide, EscapesComplete.of_not_mem (by decide)⟩
  split at valid
  · have pathQuery : IsPathQuery target :=
      validatePathQuery_eq_ok.mp (asValueError_eq_ok.mp valid)
    exact ⟨pathQuery.hash_not_mem, pathQuery.escapesComplete⟩
  · obtain ⟨scheme, remainder, host, accepted⟩ := validateAbsoluteForm_accepted documented valid
    exact ⟨accepted.unfragmented, accepted.escapesComplete⟩

/-- A letter is neither a slash nor an asterisk. -/
theorem unmarked_of_letter {first : Char} (begins : target.head? = some first)
    (alpha : isAlpha first = true) : target.head? ≠ some '/' ∧ target ≠ ['*'] := by
  constructor
  · intro same
    rw [Option.some.inj (begins.symm.trans same)] at alpha
    exact absurd alpha (by decide)
  · rintro rfl
    rw [← Option.some.inj begins] at alpha
    exact absurd alpha (by decide)

/-- A target with a scheme is in absolute form, except for a tunnel. -/
theorem accepted_of_scheme (documented : library.Documented) (method' : method ≠ "CONNECT".toList)
    (schemed : schemeOf target = some (scheme, remainder))
    (valid : validateTarget library method target = .ok ()) :
    ∃ host, AcceptedAbsolute library target scheme remainder host := by
  obtain ⟨first, marks, rfl, alpha, -, whole⟩ := schemeOf_eq_some.mp schemed
  have begins : target.head? = some first := by rw [whole]; rfl
  obtain ⟨slash, asterisk⟩ := unmarked_of_letter begins alpha
  rw [validateTarget, if_neg method', if_neg asterisk, if_neg slash] at valid
  obtain ⟨scheme', remainder', host, accepted⟩ := validateAbsoluteForm_accepted documented valid
  obtain ⟨rfl, rfl⟩ := Prod.mk.inj (Option.some.inj (accepted.schemed.symm.trans schemed))
  exact ⟨host, accepted⟩

/-- The parts of an absolute target, and how the target is put together from them. -/
theorem AcceptedAbsolute.parts {rest : Text}
    (accepted : AcceptedAbsolute library target scheme ('/' :: '/' :: rest) host) :
    ∃ mark,
      (mark = '?' :: (uriParts scheme ('/' :: '/' :: rest)).query ∨
        mark = [] ∧ (uriParts scheme ('/' :: '/' :: rest)).query = []) ∧
      target = scheme ++ "://".toList ++ rest.takeWhile isAuthorityChar ++
        (uriParts scheme ('/' :: '/' :: rest)).path ++ mark := by
  obtain ⟨-, -, -, -, -, whole⟩ := schemeOf_eq_some.mp accepted.schemed
  obtain ⟨mark, marked, behind⟩ := partition_mark (rest.dropWhile isAuthorityChar)
  refine ⟨mark, marked, ?_⟩
  calc target
      = scheme ++ "://".toList ++ rest := by
        rw [whole]
        simp
    _ = scheme ++ "://".toList ++
          (rest.takeWhile isAuthorityChar ++ rest.dropWhile isAuthorityChar) := by
        rw [takeWhile_append_dropWhile]
    _ = scheme ++ "://".toList ++ rest.takeWhile isAuthorityChar ++
          ((partition '?' (rest.dropWhile isAuthorityChar)).1 ++ mark) := by
        rw [← behind]
        simp only [append_assoc]
    _ = _ := by
        rw [← append_assoc]
        rfl

/-- With an HTTP scheme there are an authority and a host, and no user information. -/
theorem AcceptedAbsolute.host_of_http
    (accepted : AcceptedAbsolute library target scheme remainder host)
    (http : isHttpScheme (lower scheme) = true) :
    ∃ rest name, remainder = '/' :: '/' :: rest ∧ '@' ∉ (uriParts scheme remainder).netloc ∧
      validateAuthority library.ipv6Compressed (uriParts scheme remainder).netloc false = .ok name ∧
      name ≠ [] := by
  have named := accepted.named http
  obtain ⟨-, rfl⟩ | ⟨rest, name, rfl, rfl, authority⟩ :=
    targetHost_eq_ok accepted.schemed accepted.hosted
  · exact absurd rfl named
  obtain ⟨unmarked, valid⟩ | ⟨_, _, other, -⟩ := authority
  · exact ⟨rest, name, rfl, unmarked, valid, named⟩
  · rw [uriParts_scheme, http] at other
    cases other

/-! ### Routes -/

/-- A client that has sent an HTTP/1.1 request. -/
def ClientRequest.ofHttp1 (request : HTTP1Request) : ClientRequest where
  httpVersion := some .http1
  http1 := some request

/-- A client whose HTTP/2 request has been captured. -/
def ClientRequest.ofHttp2 (capture : HTTP2Capture) : ClientRequest where
  httpVersion := some .http2
  http2 := some capture

/-- An empty path stands for the root. -/
def rootedPath (path : Text) : Text := if path = [] then ['/'] else path

/-- A path and what follows it: nothing, or a question mark and a query. -/
structure PathMark (path mark : Text) : Prop where
  rooted : path = [] ∨ path.head? = some '/'
  unmarked : '?' ∉ path
  marked : mark = [] ∨ mark.head? = some '?'

namespace PathMark

variable {path mark : Text}

theorem head_rootedPath (shape : PathMark path mark) : (rootedPath path).head? = some '/' := by
  unfold rootedPath
  obtain rfl | rooted := shape.rooted
  · rfl
  · have nonempty : path ≠ [] := by
      intro empty
      rw [empty] at rooted
      cases rooted
    rw [if_neg nonempty]
    exact rooted

theorem unmarked_rootedPath (shape : PathMark path mark) : '?' ∉ rootedPath path := by
  unfold rootedPath
  split
  · decide
  · exact shape.unmarked

theorem partition_eq {front : Text} (absent : '?' ∉ front) (shape : PathMark path mark) :
    (partition '?' (front ++ mark)).1 = front := by
  cases mark with
  | nil => rw [append_nil, partition_of_not_mem absent]
  | cons first query =>
    obtain empty | begins := shape.marked
    · cases empty
    · obtain rfl := Option.some.inj begins
      rw [partition_append absent]

/-- The authority ends where a path or a query begins. -/
theorem ends_authority (shape : PathMark path mark) :
    ((path ++ mark).head?.all fun char => !isAuthorityChar char) = true := by
  cases path with
  | nil =>
    obtain rfl | begins := shape.marked
    · rfl
    · rw [nil_append, begins]
      rfl
  | cons first rest =>
    obtain empty | begins := shape.rooted
    · cases empty
    · obtain rfl := Option.some.inj begins
      rfl

end PathMark

namespace ClientRequest

/-- A path and a query are routed by the path, in either version. -/
theorem routingPath_origin {client : ClientRequest} {path mark : Text} (shape : PathMark path mark)
    (asked : client.requestMethod = some method)
    (targeted : client.requestPath = some (rootedPath path ++ mark)) :
    client.routingPath library =
      .ok (if method = "CONNECT".toList then none else some (rootedPath path)) := by
  have head : (rootedPath path ++ mark).head? = some '/' := by
    rw [List.head?_append, shape.head_rootedPath]
    rfl
  have nonempty : rootedPath path ++ mark ≠ [] := by
    intro empty
    rw [empty] at head
    cases head
  unfold routingPath
  simp only [targeted, asked, Option.getD_some, nonempty, false_or, head, true_or, or_true, if_true,
    Option.some.injEq, shape.partition_eq shape.unmarked_rootedPath]
  split
  · rfl
  · rfl

/-- An absolute target is routed by its path as well. -/
theorem routingPath_absolute {request : HTTP1Request} {path mark : Text}
    (shape : PathMark path mark) (whole : authority.all isAuthorityChar = true)
    (accepted : AcceptedAbsolute library request.path scheme
      ('/' :: '/' :: (authority ++ (path ++ mark))) host) :
    (ofHttp1 request).routingPath library =
      .ok (if request.method = "CONNECT".toList then none else some (rootedPath path)) := by
  obtain ⟨first, marks, rfl, alpha, -, target⟩ := schemeOf_eq_some.mp accepted.schemed
  have head : request.path.head? = some first := by
    rw [target]
    rfl
  have nonempty : request.path ≠ [] := by
    intro empty
    rw [empty] at head
    cases head
  obtain ⟨slash, asterisk⟩ := unmarked_of_letter head alpha
  have behind := (authority_cut whole shape.ends_authority).2
  unfold routingPath
  have targeted : (ofHttp1 request).requestPath = some request.path := rfl
  have asked : (ofHttp1 request).requestMethod = some request.method := rfl
  have version : (ofHttp1 request).httpVersion ≠ some .http2 := by
    intro same
    cases same
  simp only [targeted, asked, Option.getD_some, nonempty, false_or, Option.some.injEq, version,
    slash, asterisk, or_self, if_false, accepted.split, uriParts, behind,
    shape.partition_eq shape.unmarked]
  split
  · rfl
  · rfl

/-- The response depends on the route, the method and the expectations only. -/
theorem responsePolicy_congr {first second : ClientRequest}
    (route : first.routingPath library = second.routingPath library)
    (asked : first.requestMethod = second.requestMethod)
    (expected : (first.expectationFailed ∨ first.http2.any HTTP2Capture.expectationFailed) ↔
      (second.expectationFailed ∨ second.http2.any HTTP2Capture.expectationFailed)) :
    first.responsePolicy library = second.responsePolicy library := by
  unfold responsePolicy
  rw [route, asked]
  simp only [expected]

end ClientRequest

/--
Targets are decomposed in one way, and the route does not depend on the form of the request.

A path and a query are asked for in absolute form, in origin form and over HTTP/2.
-/
theorem requestTarget_consistent {library : UriLibrary} (documented : library.Documented)
    (method target : Text) (latin : IsLatin1 target)
    (valid : validateTarget library method target = .ok ()) :
    target.all isPrintable = true ∧ '#' ∉ target ∧ EscapesComplete target ∧
    (method ≠ "CONNECT".toList → ∀ scheme remainder,
      schemeOf target = some (scheme, remainder) →
      ∃ parsed, splitAbsoluteUri library target = .ok parsed ∧ parsed.scheme = lower scheme ∧
        (∀ rest, remainder = '/' :: '/' :: rest →
          parsed.netloc = rest.takeWhile isAuthorityChar ∧
          ∃ mark, (mark = '?' :: parsed.query ∨ mark = [] ∧ parsed.query = []) ∧
            target = scheme ++ "://".toList ++ parsed.netloc ++ parsed.path ++ mark) ∧
        (isHttpScheme parsed.scheme = true → ∃ rest host, remainder = '/' :: '/' :: rest ∧
          '@' ∉ parsed.netloc ∧
          validateAuthority library.ipv6Compressed parsed.netloc false = .ok host ∧ host ≠ [])) ∧
    (method ≠ "CONNECT".toList → ∀ scheme authority path mark,
      schemeOf target = some (scheme, '/' :: '/' :: (authority ++ (path ++ mark))) →
      authority.all isAuthorityChar = true → PathMark path mark →
      ∀ (request : HTTP1Request) (capture : HTTP2Capture),
        request.method = method → request.path = target →
        header (capture.headers.map textFields) ":method" = some method →
        header (capture.headers.map textFields) ":path" = some (rootedPath path ++ mark) →
        ∀ client ∈ [ClientRequest.ofHttp1 request,
            ClientRequest.ofHttp1 { request with path := rootedPath path ++ mark },
            ClientRequest.ofHttp2 capture],
          client.routingPath library = .ok (some (rootedPath path)) ∧
          (capture.expectationFailed = (ClientRequest.ofHttp1 request).expectationFailed →
            client.responsePolicy library =
              (ClientRequest.ofHttp1 request).responsePolicy library)) := by
  obtain ⟨unfragmented, complete⟩ := validateTarget_clean documented valid
  refine ⟨printable_of_validateTarget documented latin valid, unfragmented, complete, ?_, ?_⟩
  · intro method' scheme remainder schemed
    obtain ⟨host, accepted⟩ := accepted_of_scheme documented method' schemed valid
    refine ⟨uriParts scheme remainder, accepted.split, uriParts_scheme scheme remainder, ?_, ?_⟩
    · intro rest authority
      subst authority
      exact ⟨rfl, accepted.parts⟩
    · intro http
      rw [uriParts_scheme] at http
      exact accepted.host_of_http http
  · intro method' scheme authority path mark schemed whole shape request capture asked targeted
      captured captured'
    obtain ⟨host, accepted⟩ := accepted_of_scheme documented method' schemed valid
    subst asked targeted
    -- Each of the three forms has the rooted path as its route.
    have absolute := ClientRequest.routingPath_absolute shape whole accepted
    have origin : (ClientRequest.ofHttp1
        { request with path := rootedPath path ++ mark }).routingPath library = _ :=
      ClientRequest.routingPath_origin shape rfl rfl
    have stream : (ClientRequest.ofHttp2 capture).routingPath library = _ :=
      ClientRequest.routingPath_origin shape captured captured'
    rw [if_neg method'] at absolute origin stream
    intro client among
    simp only [mem_cons, not_mem_nil, or_false] at among
    obtain rfl | rfl | rfl := among
    · exact ⟨absolute, fun _ => rfl⟩
    · refine ⟨origin, fun _ => ?_⟩
      exact ClientRequest.responsePolicy_congr (origin.trans absolute.symm) rfl Iff.rfl
    · refine ⟨stream, fun same => ?_⟩
      apply ClientRequest.responsePolicy_congr (stream.trans absolute.symm) captured
      -- A stream has no HTTP/1.1 fields, and its own were judged when it was accepted.
      have unasked : (ClientRequest.ofHttp2 capture).expectationFailed = false := rfl
      have captured'' : (ClientRequest.ofHttp2 capture).http2.any HTTP2Capture.expectationFailed =
        capture.expectationFailed := rfl
      have uncaptured : (ClientRequest.ofHttp1 request).http2.any HTTP2Capture.expectationFailed =
        false := rfl
      rw [unasked, captured'', uncaptured, same]
      simp

/-- A target with an upper-case scheme, and the stream that asks for the same. -/
theorem requestTarget_consistent_favicon :
    validateTarget referenceUris "GET".toList "HTTPS://A:443/favicon.ico?x=//y".toList = .ok () ∧
      (ClientRequest.ofHttp1 {
        method := "GET".toList
        path := "HTTPS://A:443/favicon.ico?x=//y".toList
        headers := []
        rawHead := [] }).routingPath referenceUris = .ok (some faviconPath) := by
  have valid : validateTarget referenceUris "GET".toList
      "HTTPS://A:443/favicon.ico?x=//y".toList = .ok () := by decide +kernel
  have latin : IsLatin1 "HTTPS://A:443/favicon.ico?x=//y".toList := by
    have small : "HTTPS://A:443/favicon.ico?x=//y".toList.all (fun char => char.toNat < 256) =
      true := by decide +kernel
    intro char among
    exact of_decide_eq_true (all_eq_true.mp small char among)
  have shape : PathMark faviconPath "?x=//y".toList :=
    ⟨.inr (by decide), by decide, .inr (by decide)⟩
  let fields : List Field := [(ascii ":method", ascii "GET"),
    (ascii ":path", ascii "/favicon.ico?x=//y")]
  have consistent := (requestTarget_consistent referenceUris_documented _ _ latin valid).2.2.2.2
    (by decide) "HTTPS".toList "A:443".toList faviconPath "?x=//y".toList (by decide +kernel)
    (by decide) shape
    { method := "GET".toList, path := "HTTPS://A:443/favicon.ico?x=//y".toList, headers := []
      rawHead := [] } { headers := some fields } rfl rfl (by decide +kernel) (by decide +kernel)
  exact ⟨valid, (consistent _ (mem_cons_self ..)).1⟩

/--
A tunnel may be requested to a future address with a letter beyond ASCII.

Where case is ignored, the Kelvin sign matches the class of letters.
-/
theorem kelvin_sign_target :
    validateTarget referenceUris "CONNECT".toList "[v1.\u212A]:443".toList = .ok () ∧
      "[v1.\u212A]:443".toList.all isPrintable = false := by
  constructor
  · decide +kernel
  · decide +kernel

end SolveTls
