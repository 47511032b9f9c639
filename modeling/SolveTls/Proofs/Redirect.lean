import SolveTls.Proofs.Http1.Requests
import SolveTls.Redirect

/-! Redirects keep host, path and query, and lead nowhere else. -/

namespace SolveTls

open Search List

variable {text authority host target scheme remainder : Text} {library : UriLibrary}
  {port : Option Text} {separator : Char} {ipv6Compressed : Text → Option Text}
  {parsed : SplitResult}

/-! ### Text and its octets -/

theorem asText_asOctets (printable : text.all isPrintable = true) :
    asText (asOctets text) = text := by
  simp only [asText, asOctets, map_map]
  have same : ∀ char ∈ text, (fun octet : UInt8 => Char.ofNat octet.toNat)
      (UInt8.ofNat char.toNat) = char := by
    intro char among
    -- A printable character fits one octet.
    have range := isPrintable_iff.mp (all_eq_true.mp printable char among)
    have fits : (UInt8.ofNat char.toNat).toNat = char.toNat := by
      rw [UInt8.toNat_ofNat']
      exact Nat.mod_eq_of_lt (by omega)
    show Char.ofNat (UInt8.ofNat char.toNat).toNat = char
    rw [fits, Char.ofNat_toNat]
  exact (map_congr_left same).trans (map_id text)

/-! ### Ports -/

/-- Every port of a server is a valid one. -/
theorem validatePort_toDigits {port : Nat} (bounded : port ≤ 65535) :
    validatePort false (Nat.toDigits 10 port) = .ok () := by
  rw [validatePort_eq_ok, textValue_toDigits]
  refine ⟨isDigit_toDigits port, bounded, ?_⟩
  intro tunnel
  cases tunnel

/-! ### Hosts -/

/-- No part of a valid host separates an authority from what follows it. -/
theorem slash_not_mem_host (documented : library.Documented)
    (split : splitAuthority library.ipv6Compressed authority = .ok (host, port)) : '/' ∉ host := by
  intro among
  exact absurd (mem_host documented split among) (by decide)

/-- The host of an authority with the brackets it was spelled with. -/
def spelledHost (authority host : Text) : Text :=
  if authority.head? = some '[' then '[' :: host ++ [']'] else host

/-- What a host was accepted with, apart from its port, it is accepted with again. -/
theorem splitAuthority_spelled
    (split : splitAuthority ipv6Compressed authority = .ok (host, port)) :
    Redirect.IsHost (spelledHost authority host) ∧
    authority = spelledHost authority host ++ portSuffix port ∧
    ∀ other : Option Text, splitAuthority ipv6Compressed
      (spelledHost authority host ++ portSuffix other) = .ok (host, other) := by
  rcases splitAuthority_eq_ok.mp split with ⟨rfl, absent, known⟩ | ⟨whole, named⟩
  · have spelled : spelledHost ('[' :: (host ++ ']' :: portSuffix port)) host =
        '[' :: host ++ [']'] := if_pos rfl
    rw [spelled]
    refine ⟨.inl ⟨host, rfl, absent⟩, by simp, fun other => ?_⟩
    exact splitAuthority_eq_ok.mpr (.inl ⟨by simp, absent, known⟩)
  · obtain ⟨bracket, colon⟩ := plain_of_isRegName named
    have plain : host.head? ≠ some '[' := fun begins => bracket (mem_of_mem_head? begins)
    have unspelled : spelledHost authority host = host := by
      refine if_neg fun begins => ?_
      rw [whole] at begins
      -- An empty name is followed by a colon at most.
      cases host with
      | nil => cases port <;> simp [portSuffix] at begins
      | cons first rest => exact plain (by simpa using begins)
    rw [unspelled]
    refine ⟨.inr ⟨colon, plain⟩, whole, fun other => ?_⟩
    exact splitAuthority_eq_ok.mpr (.inr ⟨rfl, named⟩)

/-! ### Absolute targets -/

/-- A scheme is a letter followed by letters, digits and three marks, up to a colon. -/
theorem schemeOf_eq_some :
    schemeOf target = some (scheme, remainder) ↔ ∃ first rest, scheme = first :: rest ∧
      isAlpha first = true ∧ rest.all isSchemeChar = true ∧ target = scheme ++ ':' :: remainder := by
  constructor
  · intro found
    cases target with
    | nil => cases found
    | cons first others =>
      have parts := takeWhile_append_dropWhile (p := isSchemeChar) (l := others)
      rw [schemeOf] at found
      split at found
      · rename_i tail letter behind
        obtain ⟨rfl, rfl⟩ := Prod.mk.inj (Option.some.inj found)
        rw [behind] at parts
        exact ⟨first, _, rfl, letter, all_takeWhile, by rw [cons_append, parts]⟩
      · cases found
  · rintro ⟨first, rest, rfl, letter, marks, rfl⟩
    rw [all_eq_true] at marks
    have behind : (rest ++ ':' :: remainder).dropWhile isSchemeChar = ':' :: remainder := by
      rw [dropWhile_append_of_pos marks, dropWhile_cons_of_neg (by decide)]
    have front : (rest ++ ':' :: remainder).takeWhile isSchemeChar = rest := by
      rw [takeWhile_append_of_pos marks, takeWhile_cons_of_neg (by decide),
        append_nil]
    rw [cons_append, schemeOf, letter, behind, front]
    rfl

theorem length_lower (text : Text) : (lower text).length = text.length := length_map ..

/-- Characters of an authority are followed by one that ends it, or by nothing. -/
theorem authority_cut {behind : Text} (whole : authority.all isAuthorityChar = true)
    (ends : behind.head?.all fun char => !isAuthorityChar char) :
    (authority ++ behind).takeWhile isAuthorityChar = authority ∧
      (authority ++ behind).dropWhile isAuthorityChar = behind := by
  rw [all_eq_true] at whole
  rw [takeWhile_append_of_pos whole, dropWhile_append_of_pos whole]
  cases behind with
  | nil => simp
  | cons first rest =>
    have stops : ¬ isAuthorityChar first = true := by simpa using ends
    rw [takeWhile_cons_of_neg stops, dropWhile_cons_of_neg stops, append_nil]
    exact ⟨rfl, rfl⟩

theorem head_dropWhile_authority (text : Text) :
    ((text.dropWhile isAuthorityChar).head?.all fun char => !isAuthorityChar char) = true := by
  induction text with
  | nil => rfl
  | cons first rest ih =>
    by_cases kept : isAuthorityChar first = true
    · rw [dropWhile_cons_of_pos kept]
      exact ih
    · rw [dropWhile_cons_of_neg kept]
      simpa using kept

/-- Two targets that agree behind their authorities have all other parts in common. -/
theorem uriParts_authority {other tail : Text} (whole : authority.all isAuthorityChar = true)
    (whole' : other.all isAuthorityChar = true)
    (ends : tail.head?.all fun char => !isAuthorityChar char) :
    { uriParts scheme ('/' :: '/' :: (other ++ tail)) with netloc := authority } =
      uriParts scheme ('/' :: '/' :: (authority ++ tail)) := by
  obtain ⟨front, behind⟩ := authority_cut whole ends
  obtain ⟨front', behind'⟩ := authority_cut whole' ends
  simp only [uriParts, front, behind, front', behind']

/-- A target whose future address begins with a small letter, where the library accepts it. -/
theorem urlsplit_lowered (documented : library.Documented) {before back tail : Text}
    (printable : target.all isPrintable = true) (unfragmented : '#' ∉ target)
    (schemed : schemeOf target =
      some (scheme, '/' :: '/' :: (before ++ '[' :: 'V' :: back ++ tail)))
    (split : library.urlsplit (scheme ++ ':' :: '/' :: '/' :: (before ++ '[' :: 'v' :: back ++ tail)) =
      .ok parsed) :
    parsed = uriParts scheme ('/' :: '/' :: (before ++ '[' :: 'v' :: back ++ tail)) := by
  obtain ⟨letter, marks, rfl, alpha, known, rfl⟩ := schemeOf_eq_some.mp schemed
  refine documented.splits _ _ _ parsed ?_ ?_
    (schemeOf_eq_some.mpr ⟨letter, marks, rfl, alpha, known, rfl⟩) split
  · simp only [all_append, all_cons, Bool.and_eq_true] at printable ⊢
    simp only [printable, true_and, and_true]
    decide
  · simp only [mem_append, mem_cons, not_or] at unfragmented ⊢
    simp only [unfragmented, not_false_iff, true_and, and_true]
    decide

/-- What a nonempty rest stands behind is as long as what was dropped. -/
theorem split_of_drop {count : Nat} {first : Char} {back : Text}
    (behind : text.drop count = first :: back) :
    (text.take count).length = count ∧ text = text.take count ++ first :: back := by
  have more := congrArg List.length behind
  rw [length_drop, length_cons] at more
  refine ⟨?_, by rw [← behind, take_append_drop]⟩
  rw [length_take]
  omega

/-- Neither form of splitting changes the authority's spelling. -/
theorem splitAbsoluteUri_ok (documented : library.Documented)
    (printable : target.all isPrintable = true) (unfragmented : '#' ∉ target)
    (schemed : schemeOf target = some (scheme, remainder))
    (split : splitAbsoluteUri library target = .ok parsed) :
    parsed = uriParts scheme remainder := by
  have direct : library.urlsplit target = .ok parsed → parsed = uriParts scheme remainder :=
    documented.splits target scheme remainder parsed printable unfragmented schemed
  unfold splitAbsoluteUri at split
  rw [schemed] at split
  split at split
  · rename_i scheme' rest same
    obtain ⟨rfl, rfl⟩ := Prod.mk.inj (Option.some.inj same)
    simp only at split
    split at split
    · -- The first letter of a future address is lowered for the library, and put back.
      rename_i back behind
      have whole : (rest.takeWhile isAuthorityChar).all isAuthorityChar = true := all_takeWhile
      have parts := takeWhile_append_dropWhile (p := isAuthorityChar) (l := rest)
      have ends := head_dropWhile_authority rest
      generalize rest.takeWhile isAuthorityChar = text at split behind whole parts
      generalize rest.dropWhile isAuthorityChar = tail at parts ends
      obtain ⟨width, cut⟩ := split_of_drop behind
      generalize text.take (behindLast '@' text) = before at width cut
      rw [← width] at split
      subst cut parts
      obtain ⟨-, -, -, -, -, shape⟩ := schemeOf_eq_some.mp schemed
      let opening := scheme ++ ':' :: '/' :: '/' :: (before ++ ['['])
      have written : target = opening ++ 'V' :: (back ++ tail) := by
        rw [shape]
        simp [opening]
      have length : scheme.length + 3 + before.length + 1 = opening.length := by
        simp [opening]
        omega
      rw [written, length, take_left, ← drop_drop, drop_left, drop_one, tail_cons] at split
      have lowered : opening ++ 'v' :: (back ++ tail) =
          scheme ++ ':' :: '/' :: '/' :: (before ++ '[' :: 'v' :: back ++ tail) := by
        simp [opening]
      rw [lowered] at split
      obtain ⟨parsed', answered, rfl⟩ := map_eq_ok.mp split
      have whole' : (before ++ '[' :: 'v' :: back).all isAuthorityChar = true := by
        simp only [all_append, all_cons, Bool.and_eq_true] at whole ⊢
        exact ⟨whole.1, whole.2.1, by decide, whole.2.2.2⟩
      rw [urlsplit_lowered documented printable unfragmented schemed answered]
      exact uriParts_authority whole whole' ends
    · exact direct split
  · exact direct split

/-- The path and the query of a text are valid. -/
def IsPathQuery (text : Text) : Prop :=
  isEscaped isPathChar (partition '?' text).1 = true ∧
    isEscaped isQueryChar ((partition '?' text).2.getD []) = true

/-- A slash in front of a path leaves it a path. -/
theorem IsPathQuery.rooted (valid : IsPathQuery text) : IsPathQuery ('/' :: text) := by
  have cutting : partition '?' ('/' :: text) =
      ('/' :: (partition '?' text).1, (partition '?' text).2) := by
    rw [partition_eq_cut, partition_eq_cut, cut_cons, if_neg (by decide)]
  unfold IsPathQuery
  rw [cutting]
  refine ⟨?_, valid.2⟩
  rw [isEscaped, valid.1]
  · decide
  · rintro high low rest ⟨⟩

/-- A text is cut behind the last separator. -/
theorem behindLast_eq (present : separator ∈ text) :
    ∃ front back, text = front ++ separator :: back ∧
      behindLast separator text = front.length + 1 := by
  obtain ⟨back, front, reversed, absent⟩ :=
    eq_append_cons_of_mem (mem_reverse.mpr present)
  have whole : text = front.reverse ++ separator :: back.reverse := by
    rw [← reverse_reverse text, reversed]
    simp
  refine ⟨front.reverse, back.reverse, whole, ?_⟩
  -- Read from the back, the text up to the first separator is what follows the last one.
  have behind : text.reverse.takeWhile (· ≠ separator) = back := by
    have others : ∀ char ∈ back, decide (char ≠ separator) = true := by
      intro char among
      apply decide_eq_true
      intro same
      exact absent (same ▸ among)
    rw [reversed, takeWhile_append_of_pos others]
    simp
  rw [behindLast, behind, whole]
  simp
  omega

theorem uriParts_scheme (scheme remainder : Text) :
    (uriParts scheme remainder).scheme = lower scheme := by
  unfold uriParts
  split
  · rfl
  · rfl

/-- A scheme is made of letters, digits and three marks. -/
theorem not_mem_scheme {char : Char} (schemed : schemeOf target = some (scheme, remainder))
    (other : isAlpha char = false) (unmarked : isSchemeChar char = false) :
    char ∉ scheme := by
  obtain ⟨first, marks, rfl, alpha, known, -⟩ := schemeOf_eq_some.mp schemed
  intro among
  rcases mem_cons.mp among with rfl | among
  · rw [other] at alpha
    cases alpha
  · rw [all_eq_true.mp known _ among] at unmarked
    cases unmarked

/-- The authority of a target has a valid host, with user information only outside of HTTP. -/
theorem targetHost_eq_ok {host : Option Text} (schemed : schemeOf target = some (scheme, remainder))
    (hosted : targetHost library target parsed = .ok host) :
    (¬ "//".toList <+: remainder ∧ host = none) ∨
    ∃ rest name, remainder = '/' :: '/' :: rest ∧ host = some name ∧
      (('@' ∉ parsed.netloc ∧
          validateAuthority library.ipv6Compressed parsed.netloc false = .ok name) ∨
        ∃ user behind, isHttpScheme parsed.scheme = false ∧ isUserInfo user = true ∧
          parsed.netloc = user ++ '@' :: behind ∧
          validateAuthority library.ipv6Compressed behind false = .ok name) := by
  have colon : ':' ∉ scheme := not_mem_scheme schemed (by decide) (by decide)
  obtain ⟨-, -, -, -, -, whole⟩ := schemeOf_eq_some.mp schemed
  unfold targetHost at hosted
  rw [whole, partition_append colon, Option.getD_some] at hosted
  split at hosted
  · rename_i slashes
    obtain ⟨rest, rfl⟩ := slashes
    right
    simp only at hosted
    split at hosted
    · rename_i marked
      obtain ⟨user, behind, netloc, position⟩ := behindLast_eq (contains_iff_mem.mp marked)
      rw [position, netloc] at hosted
      simp only [Nat.add_sub_cancel, take_left] at hosted
      split at hosted
      · cases hosted
      · rename_i accepted
        rw [not_or, not_not] at accepted
        rw [← drop_drop, drop_left, drop_succ_cons, drop_zero] at hosted
        obtain ⟨name, checked, rfl⟩ := map_eq_ok.mp hosted
        exact ⟨rest, name, rfl, rfl,
          .inr ⟨user, behind, by simpa using accepted.1, accepted.2, netloc,
            asValueError_eq_ok.mp checked⟩⟩
    · rename_i unmarked
      obtain ⟨name, checked, rfl⟩ := map_eq_ok.mp hosted
      exact ⟨rest, name, rfl, rfl, .inl ⟨by simpa using unmarked, asValueError_eq_ok.mp checked⟩⟩
  · rename_i plain
    exact .inl ⟨plain, (Except.ok.inj hosted).symm⟩

/-- What an absolute target was accepted with. -/
structure AcceptedAbsolute (library : UriLibrary) (target scheme remainder : Text)
    (host : Option Text) : Prop where
  schemed : schemeOf target = some (scheme, remainder)
  printable : target.all isPrintable = true
  unfragmented : '#' ∉ target
  split : splitAbsoluteUri library target = .ok (uriParts scheme remainder)
  pathQuery : validatePathQuery (uriParts scheme remainder).path (uriParts scheme remainder).query =
    .ok ()
  hosted : targetHost library target (uriParts scheme remainder) = .ok host
  named : isHttpScheme (lower scheme) = true → host.getD [] ≠ []

/-- An absolute target that is let through is known. -/
theorem validateAbsoluteForm_accepted (documented : library.Documented)
    (valid : validateAbsoluteForm library target = .ok ()) :
    ∃ scheme remainder host, AcceptedAbsolute library target scheme remainder host := by
  unfold validateAbsoluteForm at valid
  split at valid
  · cases valid
  rename_i formed
  split at valid
  · cases valid
  rename_i characters
  have printable := printable_of_checked characters
  simp only [not_or, contains_iff_mem] at formed
  obtain ⟨⟨scheme, remainder⟩, schemed⟩ := Option.ne_none_iff_exists'.mp formed.1
  cases split : splitAbsoluteUri library target with
  | error message =>
    rw [split] at valid
    cases valid
  | ok parsed =>
    rw [split] at valid
    obtain rfl := splitAbsoluteUri_ok documented printable formed.2 schemed split
    simp only [bind, Except.bind] at valid
    cases checked : asValueError (validatePathQuery (uriParts scheme remainder).path
        (uriParts scheme remainder).query) with
    | error raised =>
      rw [checked] at valid
      cases valid
    | ok value =>
      rw [checked] at valid
      simp only at valid
      cases hosted : targetHost library target (uriParts scheme remainder) with
      | error raised =>
        rw [hosted] at valid
        cases valid
      | ok host =>
        rw [hosted, uriParts_scheme] at valid
        refine ⟨scheme, remainder, host, schemed, printable, formed.2, split,
          asValueError_eq_ok.mp checked, hosted, ?_⟩
        intro http empty
        simp only [http, empty, and_self, if_true] at valid
        cases valid

/-- What an absolute target with an HTTP scheme was accepted with. -/
theorem validateAbsoluteForm_http (documented : library.Documented)
    (valid : validateAbsoluteForm library target = .ok ()) :
    ∃ parsed, splitAbsoluteUri library target = .ok parsed ∧
      (parsed.scheme = "http".toList ∨ parsed.scheme = "https".toList →
        ∃ scheme authority behind host, target = scheme ++ "://".toList ++ authority ++ behind ∧
          parsed.scheme = lower scheme ∧ parsed.netloc = authority ∧
          authority.all isAuthorityChar = true ∧
          (behind.head?.all fun char => !isAuthorityChar char) = true ∧
          validateAuthority library.ipv6Compressed authority false = .ok host ∧
          IsPathQuery behind) := by
  obtain ⟨scheme, remainder, host, accepted⟩ := validateAbsoluteForm_accepted documented valid
  refine ⟨uriParts scheme remainder, accepted.split, fun http => ?_⟩
  rw [uriParts_scheme] at http
  have scheme' : isHttpScheme (lower scheme) = true := by
    rcases http with same | same <;> rw [same] <;> decide
  obtain ⟨-, rfl⟩ | ⟨rest, name, rfl, -, authority⟩ :=
    targetHost_eq_ok accepted.schemed accepted.hosted
  · exact absurd rfl (accepted.named scheme')
  -- User information is refused with an HTTP scheme.
  obtain ⟨-, checked⟩ | ⟨_, _, other, -⟩ := authority
  · obtain ⟨-, -, -, -, -, whole⟩ := schemeOf_eq_some.mp accepted.schemed
    refine ⟨scheme, rest.takeWhile isAuthorityChar, rest.dropWhile isAuthorityChar, name, ?_, rfl,
      rfl, all_takeWhile, head_dropWhile_authority rest, checked, ?_⟩
    · rw [whole, append_assoc, takeWhile_append_dropWhile]
      simp
    · exact validatePathQuery_eq_ok.mp accepted.pathQuery
  · rw [uriParts_scheme, scheme'] at other
    cases other

namespace Redirect

variable {head : RequestHead} {httpsPort : Nat}

/-- A valid request is redirected to what it asks for, or refused. -/
theorem redirectParts_cases (documented : library.Documented) (valid : head.Valid library)
    (method : asText head.method ≠ "CONNECT".toList) (target : asText head.target ≠ ['*']) :
    (∃ message, redirectParts library head.request = .error (badRequest message)) ∨
    ∃ authority remainder host, redirectParts library head.request = .ok (authority, remainder) ∧
      Asks head.request authority remainder ∧
      validateAuthority library.ipv6Compressed authority false = .ok host ∧
      remainder.head? = some '/' ∧ IsPathQuery remainder := by
  have checked := valid.target
  unfold validateTarget at checked
  rw [if_neg method, if_neg target] at checked
  unfold redirectParts
  by_cases rooted : (asText head.target).head? = some '/'
  · -- The origin form leads to the host of the Host field.
    rw [if_pos rooted] at checked
    obtain ⟨authority, host, hosts, accepted⟩ := valid.host
    have hosts' : fieldTexts head.request.headers "host" = [authority] := hosts
    refine .inr ⟨authority, asText head.target, host, ?_, .originForm rooted hosts, accepted, rooted,
      validatePathQuery_eq_ok.mp (asValueError_eq_ok.mp checked)⟩
    simp only [hosts']
    exact if_pos rooted
  · rw [if_neg rooted] at checked
    obtain ⟨parsed, split, http⟩ := validateAbsoluteForm_http documented checked
    have split' : splitAbsoluteUri library head.request.path = .ok parsed := split
    have rooted' : ¬ head.request.path.head? = some '/' := rooted
    simp only [if_neg rooted', split']
    by_cases other : parsed.scheme ≠ "http".toList ∧ parsed.scheme ≠ "https".toList
    · exact .inl ⟨_, if_pos other⟩
    · -- The absolute form leads to its own authority.
      have known : parsed.scheme = "http".toList ∨ parsed.scheme = "https".toList := by
        by_contra neither
        exact other (not_or.mp neither)
      obtain ⟨scheme, authority, behind, host, whole, lowered, netloc, characters, ends, accepted,
        pathQuery⟩ := http known
      have path : head.request.path.drop (parsed.scheme.length + 3 + parsed.netloc.length) =
          behind := by
        have width : (scheme ++ "://".toList ++ authority).length =
            parsed.scheme.length + 3 + parsed.netloc.length := by
          rw [lowered, netloc, length_lower, length_append, length_append]
          rfl
        rw [← width, show head.request.path = _ from whole, drop_left]
      rw [lowered] at known
      refine .inr ⟨authority, if behind.head? = some '/' then behind else '/' :: behind, host,
        ?_, .absoluteForm whole known characters ends, accepted, ?_, ?_⟩
      · rw [if_neg other, path, netloc]
      · split
        · assumption
        · rfl
      · split
        · exact pathQuery
        · exact pathQuery.rooted

/-- The port of a location, as the part of an authority that it is. -/
def locationPort (httpsPort : Nat) : Option Text :=
  if httpsPort = 443 then none else some (Nat.toDigits 10 httpsPort)

theorem portText_eq (httpsPort : Nat) :
    portText httpsPort = portSuffix (locationPort httpsPort) := by
  unfold portText locationPort
  split <;> rfl

theorem printable_portText (httpsPort : Nat) : (portText httpsPort).all isPrintable = true := by
  unfold portText
  split
  · rfl
  · rw [all_cons, printable_of_isDigits (isDigit_toDigits httpsPort)]
    decide

/-- A host that was accepted is accepted with the port of the location. -/
theorem validateAuthority_location
    (accepted : validateAuthority ipv6Compressed authority false = .ok host)
    (bounded : httpsPort ≤ 65535) :
    validateAuthority ipv6Compressed (spelledHost authority host ++ portText httpsPort) false =
      .ok host := by
  obtain ⟨port, split, -, -⟩ := validateAuthority_eq_ok.mp accepted
  obtain ⟨-, -, again⟩ := splitAuthority_spelled split
  rw [portText_eq]
  refine validateAuthority_eq_ok.mpr ⟨locationPort httpsPort, again _, by simp, ?_⟩
  intro text present
  unfold locationPort at present
  split at present
  · cases present
  · obtain rfl := Option.some.inj present
    exact validatePort_toDigits bounded

/-- The location spells the host that was read. -/
theorem hostOf_spelled (accepted : validateAuthority ipv6Compressed authority false = .ok host) :
    HostOf authority (spelledHost authority host) := by
  obtain ⟨port, split, -, checked⟩ := validateAuthority_eq_ok.mp accepted
  obtain ⟨spelled, whole, -⟩ := splitAuthority_spelled split
  refine ⟨spelled, ?_⟩
  cases port with
  | none => exact .inl (by simpa [portSuffix] using whole)
  | some text => exact .inr ⟨text, (validatePort_eq_ok.mp (checked text rfl)).1, whole⟩

/-- Printable text is a field value without blanks and control octets. -/
theorem octets_of_printable (printable : text.all isPrintable = true) :
    (asOctets text).any isControlOctet = false ∧
      (asOctets text).head?.any isSpaceOrTab = false ∧
      (asOctets text).getLast?.any isSpaceOrTab = false := by
  have decoded : (asText (asOctets text)).all isPrintable = true := by
    rw [asText_asOctets printable]
    exact printable
  have blank : ∀ octet ∈ asOctets text, isSpaceOrTab octet = false := by
    intro octet among
    have range := octet_of_printable decoded among
    simp only [isSpaceOrTab, Bool.or_eq_false_iff, decide_eq_false_iff_not]
    refine ⟨?_, ?_⟩ <;> rintro rfl <;> simp at range
  refine ⟨?_, ?_, ?_⟩
  · rw [any_eq_false]
    intro octet among
    have range := octet_of_printable decoded among
    simp only [isControlOctet, Bool.or_eq_true, Bool.and_eq_true, decide_eq_true_eq,
      UInt8.lt_iff_toNat_lt, not_or, not_and]
    refine ⟨fun low => ?_, ?_⟩
    · have small : octet.toNat < 32 := low
      omega
    · rintro rfl
      simp at range
  · cases first : (asOctets text).head? with
    | none => rfl
    | some octet => exact blank octet (mem_of_mem_head? first)
  · cases last : (asOctets text).getLast? with
    | none => rfl
    | some octet => exact blank octet (mem_of_getLast? last)

/-- The request for a location is a valid one. -/
theorem requestFor_valid
    (accepted : validateAuthority library.ipv6Compressed authority false = .ok host)
    (printable : authority.all isPrintable = true) (printable' : remainder.all isPrintable = true)
    (rooted : remainder.head? = some '/') (pathQuery : IsPathQuery remainder) :
    (requestFor authority remainder).Valid library := by
  obtain ⟨clean, begins, ends⟩ := octets_of_printable printable
  have headers : (requestFor authority remainder).headers = [("Host".toList, authority)] := by
    simp only [RequestHead.headers, requestFor, map_cons, map_nil, FieldLine.header,
      asText_asOctets printable]
    rfl
  have asterisk : remainder ≠ ['*'] := by
    rintro rfl
    cases rooted
  have lowered : lower "Host".toList = "host".toList := by decide
  refine ⟨show isTokenText (asText (ascii "GET")) = true by decide, ?_, ?_, ?_, ?_⟩
  · -- The target is in origin form.
    show validateTarget library (asText (ascii "GET")) (asText (asOctets remainder)) = .ok ()
    rw [asText_asOctets printable', validateTarget, if_neg (by decide), if_neg asterisk,
      if_pos rooted]
    exact asValueError_eq_ok.mpr (validatePathQuery_eq_ok.mpr pathQuery)
  · intro line among
    obtain rfl := mem_singleton.mp among
    exact ⟨show isTokenText (asText (ascii "Host")) = true by decide, rfl, rfl, clean, begins, ends⟩
  · rw [headers]
    refine ⟨authority, host, ?_, accepted⟩
    simp only [fieldTexts, filter_cons, lowered, decide_true, if_true, filter_nil,
      map_cons, map_nil]
  · rw [headers]
    have absent : ∀ name : String, name.toList ≠ "host".toList →
        fieldTexts [("Host".toList, authority)] name = [] := by
      intro name other
      simp only [fieldTexts, map_eq_nil_iff, filter_eq_nil_iff, mem_singleton,
        forall_eq, decide_eq_true_eq, lowered]
      exact fun same => other same.symm
    unfold validateFraming
    rw [absent "content-length" (by decide), absent "transfer-encoding" (by decide)]
    rfl

/-- The text up to the first slash, and what begins with it. -/
theorem cut_at_slash (absent : '/' ∉ authority) (rooted : remainder.head? = some '/') :
    (authority ++ remainder).takeWhile (· ≠ '/') = authority ∧
      (authority ++ remainder).dropWhile (· ≠ '/') = remainder := by
  have kept : ∀ char ∈ authority, decide (char ≠ '/') = true := by
    intro char among
    rw [decide_eq_true_eq]
    rintro rfl
    exact absent among
  rw [takeWhile_append_of_pos kept, dropWhile_append_of_pos kept]
  cases remainder with
  | nil => cases rooted
  | cons first rest =>
    obtain rfl := Option.some.inj rooted
    simp

theorem slash_not_mem_spelled (documented : library.Documented)
    (accepted : validateAuthority library.ipv6Compressed authority false = .ok host)
    (httpsPort : Nat) : '/' ∉ spelledHost authority host ++ portText httpsPort := by
  obtain ⟨port, split, -, -⟩ := validateAuthority_eq_ok.mp accepted
  have absent := slash_not_mem_host documented split
  rw [mem_append, not_or]
  constructor
  · unfold spelledHost
    split
    · simp [absent]
    · exact absent
  · unfold portText
    split
    · exact not_mem_nil
    · rw [mem_cons, not_or]
      refine ⟨by decide, fun among => ?_⟩
      exact absurd (all_eq_true.mp (isDigit_toDigits httpsPort) _ among) (by decide)

/-- The path and query of a valid target are printable. -/
theorem printable_of_isPathQuery (pathQuery : IsPathQuery text) :
    text.all isPrintable = true :=
  all_of_partition (by decide) rfl
    (isPrintable_of_isEscaped (fun _ => isPrintable_of_isPathChar) pathQuery.1)
    (isPrintable_of_isEscaped (fun _ => isPrintable_of_isQueryChar) pathQuery.2)

/-- The authority that a request is meant for was decoded from octets. -/
theorem isLatin1_of_asks (asks : Asks head.request authority remainder) : IsLatin1 authority := by
  cases asks with
  | originForm path host =>
    have listed : authority ∈ fieldTexts head.headers "host" := by
      have single : fieldTexts head.headers "host" = [authority] := host
      rw [single]
      exact mem_cons_self ..
    obtain ⟨field, among, rfl⟩ := mem_map.mp listed
    obtain ⟨line, -, rfl⟩ := mem_map.mp (mem_of_mem_filter among)
    exact isLatin1_asText line.value
  | absoluteForm target http whole ends =>
    -- The authority is a part of the target.
    intro char among
    apply isLatin1_asText head.target
    have whole : asText head.target = _ := target
    rw [whole]
    simp [among]

theorem printable_spelled (documented : library.Documented) (latin : IsLatin1 authority)
    (accepted : validateAuthority library.ipv6Compressed authority false = .ok host) :
    (spelledHost authority host).all isPrintable = true := by
  obtain ⟨port, split, -, -⟩ := validateAuthority_eq_ok.mp accepted
  have printable := (printable_of_splitAuthority documented latin split).1
  unfold spelledHost
  split
  · simp only [cons_append, all_cons, all_append, printable]
    decide
  · exact printable

/-- Where a location leads: the host and path of the request, and nowhere else. -/
structure Leads (library : UriLibrary) (request : HTTP1Request) (httpsPort : Nat)
    (location authority host remainder : Text) : Prop where
  asks : Asks request authority remainder
  hostOf : HostOf authority host
  named : host ≠ []
  spelled : location = "https://".toList ++ host ++ portText httpsPort ++ remainder
  printable : location.all isPrintable = true
  /-- Splitting at the first slash behind the scheme gives the two parts back. -/
  front : (location.drop "https://".length).takeWhile (· ≠ '/') = host ++ portText httpsPort
  back : (location.drop "https://".length).dropWhile (· ≠ '/') = remainder
  /-- The request that follows the redirect is accepted, if it is not too long. -/
  accepted : (requestFor (host ++ portText httpsPort) remainder).bytes.length ≤ maxHeadSize →
    ∃ again, parseRequest library (requestFor (host ++ portText httpsPort) remainder).bytes =
      .ok again ∧ again.path = remainder

/-- A redirect leads where the request asked. -/
theorem redirectLocation_leads (documented : library.Documented) (valid : head.Valid library)
    (bounded : httpsPort ≤ 65535) :
    RaisesOnly Exn.isHttp1 (redirectLocation library head.request httpsPort) ∧
    ∀ location, redirectLocation library head.request httpsPort = .ok location →
      ∃ authority host remainder,
        Leads library head.request httpsPort location authority host remainder := by
  unfold redirectLocation
  by_cases method : head.request.method = "CONNECT".toList
  · rw [if_pos method]
    exact ⟨raisesOnly_error rfl, by intros; contradiction⟩
  rw [if_neg method]
  by_cases target : head.request.path = ['*']
  · rw [if_pos target]
    exact ⟨raisesOnly_error rfl, by intros; contradiction⟩
  rw [if_neg target]
  rcases redirectParts_cases documented valid method target with
    ⟨message, refused⟩ | ⟨authority, remainder, host, parts, asks, accepted, rooted, pathQuery⟩
  · rw [refused]
    exact ⟨raisesOnly_error rfl, by intros; contradiction⟩
  rw [parts]
  simp only [bind, Except.bind, accepted, asValueError]
  by_cases named : host = []
  · rw [if_pos named]
    exact ⟨raisesOnly_error rfl, by intros; contradiction⟩
  rw [if_neg named]
  refine ⟨raisesOnly_ok _, fun location returned => ?_⟩
  obtain rfl := Except.ok.inj returned
  have spelled : spelledHost authority host ≠ [] := by
    unfold spelledHost
    split
    · simp
    · exact named
  -- Behind the scheme stand the authority, which has no slash, and the path, which begins with one.
  have behind : ("https://".toList ++ spelledHost authority host ++ portText httpsPort ++
      remainder).drop "https://".length =
        spelledHost authority host ++ portText httpsPort ++ remainder := by
    rw [append_assoc, append_assoc, ← append_assoc (spelledHost authority host)]
    exact drop_left' (by decide)
  obtain ⟨front, back⟩ := cut_at_slash (slash_not_mem_spelled documented accepted httpsPort) rooted
  have printable : (spelledHost authority host ++ portText httpsPort).all isPrintable = true := by
    rw [all_append, printable_spelled documented (isLatin1_of_asks asks) accepted,
      printable_portText]
    rfl
  have printable' := printable_of_isPathQuery pathQuery
  refine ⟨authority, spelledHost authority host, remainder, asks, hostOf_spelled accepted, spelled,
    rfl, ?_, ?_, ?_, fun fits => ?_⟩
  · show ("https://".toList ++ spelledHost authority host ++ portText httpsPort ++
      remainder).all isPrintable = true
    rw [append_assoc, append_assoc, ← append_assoc (spelledHost authority host),
      all_append, all_append, printable, printable']
    decide
  · exact (congrArg _ behind).trans front
  · exact (congrArg _ behind).trans back
  · have valid' := requestFor_valid (validateAuthority_location accepted bounded) printable printable'
      rooted pathQuery
    refine ⟨_, (parseRequest_eq_ok documented).mpr ⟨_, valid',
      valid'.throughHeadEnd documented rfl, fits, rfl⟩, ?_⟩
    exact asText_asOctets printable'

/--
Redirects keep host, path and query, and cannot be abused.

For every head and port, the outcome is an `HTTP1Error` or a location at the host of the request
with its path and query, which is split at its first slash into just these parts and whose own
request is accepted.
-/
theorem redirect_faithful {library : UriLibrary} (documented : library.Documented) (head : Bytes)
    {httpsPort : Nat} (bounded : httpsPort ≤ 65535) :
    RaisesOnly Exn.isHttp1
      (parseRequest library head >>= fun request => redirectLocation library request httpsPort) ∧
    ∀ location, (parseRequest library head >>= fun request =>
        redirectLocation library request httpsPort) = .ok location →
      ∃ request authority host remainder, parseRequest library head = .ok request ∧
        Leads library request httpsPort location authority host remainder := by
  cases parsed : parseRequest library head with
  | error raised =>
    refine ⟨?_, by intros; contradiction⟩
    rintro _ ⟨⟩
    exact raisesOnly_parseRequest documented head raised parsed
  | ok request =>
    obtain ⟨found, valid, -, -, rfl⟩ := (parseRequest_eq_ok documented).mp parsed
    obtain ⟨raises, leads⟩ := redirectLocation_leads documented valid bounded
    refine ⟨raises, fun location returned => ?_⟩
    obtain ⟨authority, host, remainder, leads⟩ := leads location returned
    exact ⟨found.request, authority, host, remainder, rfl, leads⟩

/-- A target that looks like an authority stays a path of the requested host. -/
theorem redirect_faithful_doubleSlash :
    (parseRequest referenceUris (ascii "GET //evil/..?a HTTP/1.1\r\nHost: [::1]:80\r\n\r\n") >>=
        fun request => redirectLocation referenceUris request 8443) =
      .ok "https://[::1]:8443//evil/..?a".toList ∧
    ∃ request authority host remainder,
      Leads referenceUris request 8443 "https://[::1]:8443//evil/..?a".toList authority host
        remainder := by
  have returned : (parseRequest referenceUris
      (ascii "GET //evil/..?a HTTP/1.1\r\nHost: [::1]:80\r\n\r\n") >>=
        fun request => redirectLocation referenceUris request 8443) =
      .ok "https://[::1]:8443//evil/..?a".toList := by decide +kernel
  obtain ⟨request, authority, host, remainder, -, leads⟩ :=
    (redirect_faithful referenceUris_documented _ (by decide)).2 _ returned
  exact ⟨returned, request, authority, host, remainder, leads⟩

end Redirect

end SolveTls
