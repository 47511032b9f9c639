import SolveTls.Base.Digits
import SolveTls.Proofs.Http1.Authorities

/-! Normalized authorities are equal exactly where host and port mean the same. -/

namespace SolveTls

open Search List

variable {char : Char}

/-! ### Characters -/

theorem upperDigit_spec {value : Nat} (small : value < 16) :
    isHexDigit (upperDigit value) = true ∧ hexValue (upperDigit value) = value := by
  have all : ∀ value < 16, isHexDigit (upperDigit value) = true ∧
      hexValue (upperDigit value) = value := by decide +kernel
  exact all value small

/-- Lower case keeps a character of a name one, and is not changed by lowering again. -/
theorem lowerChar_spec (allowed : isRegNameChar char = true) :
    isRegNameChar (lowerChar char) = true ∧ lowerChar (lowerChar char) = lowerChar char := by
  have range : char.toNat < 128 := by
    have printable := isPrintable_iff.mp (isPrintable_of_isRegNameChar allowed)
    omega
  have all : ∀ value < 128, isRegNameChar (Char.ofNat value) = true →
      isRegNameChar (lowerChar (Char.ofNat value)) = true ∧
        lowerChar (lowerChar (Char.ofNat value)) = lowerChar (Char.ofNat value) := by
    decide +kernel
  have known := all char.toNat range
  rw [Char.ofNat_toNat] at known
  exact known allowed

theorem isRegNameChar_of_isUnreserved (unreserved : isUnreserved char = true) :
    isRegNameChar char = true := by
  simp [isRegNameChar, unreserved]

/-! ### Names -/

/-- How a meaning is written in a normalized name. -/
def NameMeaning.text : NameMeaning → Text
  | .character char => [char]
  | .octet value => ['%', upperDigit (value / 16), upperDigit (value % 16)]

/-- The meanings that items have. -/
def NameMeaning.Valid : NameMeaning → Prop
  | .character char => isRegNameChar char = true ∧ lowerChar char = char
  | .octet value => value < 256 ∧ isUnreserved (Char.ofNat value) = false

theorem NameItem.meaning_valid (item : NameItem) : item.meaning.Valid := by
  cases item with
  | plain char allowed => exact lowerChar_spec allowed
  | escape high low digits =>
    have first := (hexDigit_spec digits.1).1
    have second := (hexDigit_spec digits.2).1
    unfold NameItem.meaning
    simp only
    split
    · rename_i unreserved
      exact lowerChar_spec (isRegNameChar_of_isUnreserved unreserved)
    · rename_i reserved
      refine ⟨by omega, ?_⟩
      simpa using reserved

/-- A name is normalized item by item. -/
theorem normalizeEscapes_name (items : List NameItem) :
    normalizeEscapes (lower (items.flatMap NameItem.text)) =
      (items.map NameItem.meaning).flatMap NameMeaning.text := by
  induction items with
  | nil => rfl
  | cons item items ih =>
    rw [flatMap_cons, map_cons, flatMap_cons, lower, map_append]
    rw [lower] at ih
    cases item with
    | plain char allowed =>
      show normalizeEscapes (lowerChar char :: (items.flatMap NameItem.text).map lowerChar) =
        lowerChar char :: (items.map NameItem.meaning).flatMap NameMeaning.text
      -- No plain character is a percent sign, not even in lower case.
      have other : lowerChar char ≠ '%' := by
        intro same
        have kept := (lowerChar_spec allowed).1
        rw [same] at kept
        exact absurd kept (by decide)
      rw [normalizeEscapes, ih]
      intro high low rest same
      exact absurd same other
    | escape high low digits =>
      obtain ⟨firstSmall, firstDigit, firstValue, firstUpper, -⟩ := hexDigit_spec digits.1
      obtain ⟨secondSmall, secondDigit, secondValue, secondUpper, -⟩ := hexDigit_spec digits.2
      show normalizeEscapes ('%' :: lowerChar high :: lowerChar low ::
        (items.flatMap NameItem.text).map lowerChar) = _
      rw [normalizeEscapes, if_pos ⟨firstDigit, secondDigit⟩]
      simp only [firstValue, secondValue, firstUpper, secondUpper, ih, NameItem.meaning]
      split
      · rfl
      · have quotient : (hexValue high * 16 + hexValue low) / 16 = hexValue high := by omega
        have remainder : (hexValue high * 16 + hexValue low) % 16 = hexValue low := by omega
        simp [NameMeaning.text, quotient, remainder]

/-- The first item of a normalized name can be told from its text. -/
theorem NameMeaning.text_inj {first second : NameMeaning} {rest rest' : Text}
    (valid : first.Valid) (valid' : second.Valid)
    (same : first.text ++ rest = second.text ++ rest') : first = second ∧ rest = rest' := by
  have noPercent : ∀ {char : Char}, isRegNameChar char = true → char ≠ '%' := by
    rintro _ allowed rfl
    exact absurd allowed (by decide)
  cases first with
  | character char =>
    cases second with
    | character other =>
      obtain ⟨rfl, rest⟩ := cons.inj same
      exact ⟨rfl, rest⟩
    | octet value => exact absurd (cons.inj same).1 (noPercent valid.1)
  | octet value =>
    cases second with
    | character other => exact absurd (cons.inj same).1.symm (noPercent valid'.1)
    | octet other =>
      -- The two digits determine the octet.
      have below : value < 256 := valid.1
      have below' : other < 256 := valid'.1
      obtain ⟨-, tail⟩ := cons.inj same
      obtain ⟨high, tail⟩ := cons.inj tail
      obtain ⟨low, rest⟩ := cons.inj tail
      have quotient : value / 16 = other / 16 := by
        rw [← (upperDigit_spec (show value / 16 < 16 by omega)).2, high,
          (upperDigit_spec (show other / 16 < 16 by omega)).2]
      have remainder : value % 16 = other % 16 := by
        rw [← (upperDigit_spec (show value % 16 < 16 by omega)).2, low,
          (upperDigit_spec (show other % 16 < 16 by omega)).2]
      have equal : value = other := by omega
      exact ⟨by rw [equal], rest⟩

/-- Normalized names are equal only if they mean the same. -/
theorem meanings_inj {first second : List NameMeaning} (valid : ∀ meaning ∈ first, meaning.Valid)
    (valid' : ∀ meaning ∈ second, meaning.Valid)
    (same : first.flatMap NameMeaning.text = second.flatMap NameMeaning.text) : first = second := by
  induction first generalizing second with
  | nil =>
    cases second with
    | nil => rfl
    | cons meaning rest =>
      have empty := congrArg List.length same
      cases meaning <;> simp [NameMeaning.text] at empty
  | cons meaning rest ih =>
    cases second with
    | nil =>
      have empty := congrArg List.length same
      cases meaning <;> simp [NameMeaning.text] at empty
    | cons meaning' rest' =>
      rw [flatMap_cons, flatMap_cons] at same
      obtain ⟨rfl, later⟩ := NameMeaning.text_inj (valid meaning (mem_cons_self ..))
        (valid' meaning' (mem_cons_self ..)) same
      rw [ih (fun other listed => valid other (mem_cons_of_mem _ listed))
        (fun other listed => valid' other (mem_cons_of_mem _ listed)) later]

/-- What is written for a meaning is an item with that meaning. -/
theorem NameMeaning.Valid.item {meaning : NameMeaning} (valid : meaning.Valid) :
    ∃ item : NameItem, item.text = meaning.text ∧ item.meaning = meaning := by
  cases meaning with
  | character char =>
    refine ⟨.plain char valid.1, rfl, ?_⟩
    rw [NameItem.meaning, valid.2]
  | octet value =>
    have below : value < 256 := valid.1
    obtain ⟨first, firstValue⟩ := upperDigit_spec (show value / 16 < 16 by omega)
    obtain ⟨second, secondValue⟩ := upperDigit_spec (show value % 16 < 16 by omega)
    refine ⟨.escape (upperDigit (value / 16)) (upperDigit (value % 16)) ⟨first, second⟩, rfl, ?_⟩
    have whole : value / 16 * 16 + value % 16 = value := by omega
    have reserved : isUnreserved (Char.ofNat value) = false := valid.2
    simp [NameItem.meaning, firstValue, secondValue, whole, reserved]

/-- A normalized name is a name with the same meaning. -/
theorem exists_normalItems (items : List NameItem) : ∃ normal : List NameItem,
    normal.flatMap NameItem.text = (items.map NameItem.meaning).flatMap NameMeaning.text ∧
      normal.map NameItem.meaning = items.map NameItem.meaning := by
  induction items with
  | nil => exact ⟨[], rfl, rfl⟩
  | cons item items ih =>
    obtain ⟨normal, texts, meanings⟩ := ih
    obtain ⟨first, text, meaning⟩ := item.meaning_valid.item
    refine ⟨first :: normal, ?_, ?_⟩
    · rw [flatMap_cons, map_cons, flatMap_cons, texts, text]
    · rw [map_cons, map_cons, meanings, meaning]

/-! ### Hosts -/

section Hosts

variable {ipv6Compressed : Text → Option Text} {render : List Nat → Text}
variable {text version address : Text} {groups : List Nat} {mark : Char} {authority : Authority}
  {connect : Bool}

/-- The normalized form of a host. -/
def Host.normal (render : List Nat → Text) : Host → Text
  | .name items => (items.map NameItem.meaning).flatMap NameMeaning.text
  | .ipv6 _ groups _ => '[' :: (render groups ++ [']'])
  | .future mark version address _ _ _ => '[' :: (lower (mark :: (version ++ '.' :: address)) ++ [']'])

theorem Ipv6Canonical.exact (library : Ipv6Canonical ipv6Compressed render) :
    Ipv6Exact ipv6Compressed := by
  intro text unscoped
  rw [library.compressed text unscoped, Option.isSome_map]

/-- The mark of a future address is no hexadecimal digit, and no IPv6 address contains it. -/
theorem mark_not_mem_ipv6 (denotes : ipv6Address text = some groups)
    (marked : lowerChar mark = 'v') : mark ∉ text := by
  apply not_mem_ipv6Address denotes
  by_contra digit
  rw [Bool.not_eq_false, isAddressChar, Bool.or_eq_true, Bool.or_eq_true, decide_eq_true_eq,
    decide_eq_true_eq] at digit
  rcases digit with (digit | rfl) | rfl
  · have kept := (hexDigit_spec digit).2.1
    rw [marked] at kept
    exact absurd kept (by decide)
  · exact absurd marked (by decide)
  · exact absurd marked (by decide)

/-- A future address begins with its mark, in whatever text. -/
theorem mark_of_isIpvFuture (future : isIpvFuture text = true) :
    ∃ mark ∈ text, lowerChar mark = 'v' := by
  cases text with
  | nil => cases future
  | cons mark rest =>
    rw [isIpvFuture] at future
    split at future
    · simp only [Bool.and_eq_true, decide_eq_true_eq] at future
      exact ⟨mark, mem_cons_self .., future.1.1.1⟩
    · cases future

theorem isIpvFuture_of_ipv6Address (denotes : ipv6Address text = some groups) :
    isIpvFuture text = false := by
  by_contra future
  rw [Bool.not_eq_false] at future
  obtain ⟨mark, among, marked⟩ := mark_of_isIpvFuture future
  exact mark_not_mem_ipv6 denotes marked among

/-- The host that the normalization returns. -/
def normalizedHost (ipv6Compressed : Text → Option Text) (authority host : Text) : Text :=
  match authority with
  | '[' :: _ =>
    '[' :: (if isIpvFuture host then lowerFolded host else (ipv6Compressed host).getD []) ++ [']']
  | _ => normalizeEscapes (lower host)

/-- The text of the port that the normalization converts. -/
def normalizedPort (authority : Text) : Text :=
  match authority with
  | '[' :: literal => ((partition ']' literal).2.getD []).drop 1
  | _ => (partition ':' authority).2.getD []

/-- Printable text is lowered character by character. -/
theorem lowerFolded_eq (printable : text.all isPrintable = true) :
    lowerFolded text = lower text := by
  induction text with
  | nil => rfl
  | cons char rest ih =>
    rw [all_cons, Bool.and_eq_true] at printable
    have range := isPrintable_iff.mp printable.1
    have noDot : char ≠ '\u0130' := by
      rintro rfl
      exact absurd range.2 (by decide)
    have noSign : char ≠ '\u212A' := by
      rintro rfl
      exact absurd range.2 (by decide)
    have later := ih printable.2
    rw [lowerFolded] at later
    rw [lowerFolded, flatMap_cons, if_neg noDot, if_neg noSign, later]
    rfl

theorem lowerFolded_future (marked : lowerChar mark = 'v')
    (versioned : version ≠ [] ∧ version.all isHexDigit = true)
    (addressed : address ≠ [] ∧ address.all (fun char => isRegNameChar char || char = ':') = true) :
    lowerFolded (mark :: (version ++ '.' :: address)) =
      lower (mark :: (version ++ '.' :: address)) := by
  apply lowerFolded_eq
  rw [all_eq_true]
  intro char among
  simp only [mem_cons, mem_append] at among
  rcases among with rfl | digit | rfl | inside
  · exact isPrintable_of_mark marked
  · exact isPrintable_of_isHexDigit (all_eq_true.mp versioned.2 char digit)
  · decide
  · have known := all_eq_true.mp addressed.2 char inside
    rw [Bool.or_eq_true, decide_eq_true_eq] at known
    rcases known with plain | rfl
    · exact isPrintable_of_isRegNameChar plain
    · decide

/-- The host is written in its normal form. -/
theorem normalizedHost_eq (library : Ipv6Canonical ipv6Compressed render) (host : Host)
    (port : Option Text) :
    normalizedHost ipv6Compressed (host.written ++ portSuffix port) host.text =
      host.normal render := by
  cases host with
  | name items =>
    unfold normalizedHost
    split
    · rename_i literal begins
      exact absurd begins (name_ne_bracket items port literal)
    · exact normalizeEscapes_name items
  | ipv6 text groups denotes =>
    have unscoped : '%' ∉ text := not_mem_ipv6Address denotes (by decide)
    have compressed : ipv6Compressed text = some (render groups) := by
      rw [library.compressed text unscoped, denotes]
      rfl
    rw [(Host.InBrackets.ipv6 text groups denotes).text_eq]
    simp only [normalizedHost, Host.text, Host.normal, isIpvFuture_of_ipv6Address denotes, compressed]
    rfl
  | future mark version address marked versioned addressed =>
    have future := isIpvFuture_of_parts marked versioned addressed
    have lowered := lowerFolded_future marked versioned addressed
    rw [(Host.InBrackets.future mark version address marked versioned addressed).text_eq]
    simp only [normalizedHost, Host.text, Host.normal, future, lowered]
    rfl

/-- The port is kept as it was written. -/
theorem normalizedPort_eq (host : Host) (port : Option Text) :
    normalizedPort (host.written ++ portSuffix port) = port.getD [] := by
  have bracketed : host.InBrackets →
      normalizedPort (host.written ++ portSuffix port) = port.getD [] := by
    intro literal
    rw [literal.text_eq]
    simp only [normalizedPort, literal.partition_eq]
    cases port <;> rfl
  cases host with
  | name items =>
    unfold normalizedPort
    split
    · rename_i literal begins
      exact absurd begins (name_ne_bracket items port literal)
    · have cutting := partition_name items port
      show (partition ':' (items.flatMap NameItem.text ++ portSuffix port)).2.getD [] = _
      rw [cutting]
  | ipv6 text groups denotes => exact bracketed (.ipv6 ..)
  | future mark version address marked versioned addressed => exact bracketed (.future ..)

/-- What is returned for an authority are the normalized host and the port that counts. -/
theorem normalizeAuthority_eq (library : Ipv6Canonical ipv6Compressed render) (scheme : Text)
    (connectable : connect = true → authority.Connectable) :
    normalizeAuthority ipv6Compressed authority.text scheme connect =
      .ok (authority.host.normal render, authority.effectivePort scheme) := by
  have valid := validateAuthority_text library.exact authority connectable
  have port : (if normalizedPort authority.text = [] then defaultPort scheme
      else some (textValue (significantDigits (normalizedPort authority.text)))) =
        authority.effectivePort scheme := by
    rw [Authority.text, normalizedPort_eq, Authority.effectivePort,
      textValue_significantDigits authority.numeric]
  have host := normalizedHost_eq library authority.host authority.port
  unfold normalizeAuthority
  rw [valid]
  show Except.ok (normalizedHost ipv6Compressed authority.text authority.host.text,
    if normalizedPort authority.text = [] then defaultPort scheme
    else some (textValue (significantDigits (normalizedPort authority.text)))) = _
  rw [port, Authority.text, host]

/-! ### Equal normal forms -/

/-- No normalized name begins with a bracket. -/
theorem normalName_ne_bracket (items : List NameItem) (rest : Text) :
    (items.map NameItem.meaning).flatMap NameMeaning.text ≠ '[' :: rest := by
  obtain ⟨normal, texts, -⟩ := exists_normalItems items
  have free := name_ne_bracket normal none rest
  rw [portSuffix, Option.map_none, Option.getD_none, append_nil, texts] at free
  exact free

/-- Names are equivalent when their texts agree. -/
theorem names_equivalent_iff (first second : List NameItem) :
    (first.map NameItem.meaning).flatMap NameMeaning.text =
      (second.map NameItem.meaning).flatMap NameMeaning.text ↔
        first.map NameItem.meaning = second.map NameItem.meaning := by
  have valid (items : List NameItem) :
      ∀ meaning ∈ items.map NameItem.meaning, meaning.Valid := by
    intro meaning listed
    obtain ⟨item, -, rfl⟩ := mem_map.mp listed
    exact item.meaning_valid
  constructor
  · intro same
    exact meanings_inj (valid first) (valid second) same
  · intro same
    rw [same]

theorem brackets_inj {first second : Text} :
    '[' :: (first ++ [']']) = '[' :: (second ++ [']']) ↔ first = second := by
  constructor
  · intro same
    exact append_cancel_right (cons.inj same).2
  · intro same
    rw [same]

section Library

variable (library : Ipv6Canonical ipv6Compressed render)

include library

/-- Different addresses are rendered differently. -/
theorem render_inj {text' : Text} {groups' : List Nat} (denotes : ipv6Address text = some groups)
    (denotes' : ipv6Address text' = some groups') :
    render groups = render groups' ↔ groups = groups' := by
  constructor
  · -- The canonical text denotes the address again.
    intro same
    have first := library.canonical text groups denotes
    have second := library.canonical text' groups' denotes'
    rw [same, second] at first
    exact (Option.some.inj first).symm
  · intro same
    rw [same]

/-- No canonical address is a future one in lower case. -/
theorem render_ne_future (denotes : ipv6Address text = some groups) (marked : lowerChar mark = 'v')
    (rest : Text) : render groups ≠ lower (mark :: rest) := by
  intro same
  apply mark_not_mem_ipv6 (library.canonical text groups denotes) (show lowerChar 'v' = 'v' by decide)
  rw [same, lower, map_cons, marked]
  exact mem_cons_self ..

/-- Hosts have the same normalized form exactly if they are equivalent. -/
theorem normal_eq_iff (first second : Host) :
    first.normal render = second.normal render ↔ first.Equivalent second := by
  cases first with
  | name items =>
    cases second with
    | name others => exact names_equivalent_iff items others
    | ipv6 | future => exact iff_of_false (normalName_ne_bracket items _) id
  | ipv6 text groups denotes =>
    cases second with
    | name others => exact iff_of_false (fun same => normalName_ne_bracket others _ same.symm) id
    | ipv6 text' groups' denotes' =>
      exact brackets_inj.trans (render_inj library denotes denotes')
    | future mark version address marked versioned addressed =>
      refine iff_of_false ?_ id
      intro same
      exact render_ne_future library denotes marked _ (brackets_inj.mp same)
  | future mark version address marked versioned addressed =>
    cases second with
    | name others => exact iff_of_false (fun same => normalName_ne_bracket others _ same.symm) id
    | ipv6 text groups denotes =>
      refine iff_of_false ?_ id
      intro same
      exact render_ne_future library denotes marked _ (brackets_inj.mp same).symm
    | future => exact brackets_inj

/-! ### Normalizing again -/

omit library in
/-- Lower case does not change the parts of a future address into anything else. -/
theorem exists_lowerFuture (render : List Nat → Text) (marked : lowerChar mark = 'v')
    (versioned : version ≠ [] ∧ version.all isHexDigit = true)
    (addressed : address ≠ [] ∧ address.all (fun char => isRegNameChar char || char = ':') = true) :
    ∃ host : Host, host.InBrackets ∧ host.text = lower (mark :: (version ++ '.' :: address)) ∧
      host.normal render = '[' :: (host.text ++ [']']) := by
  have version' : lower version ≠ [] ∧ (lower version).all isHexDigit = true := by
    refine ⟨by simpa [lower] using versioned.1, ?_⟩
    rw [lower, all_map, all_eq_true]
    intro char listed
    exact (hexDigit_spec (all_eq_true.mp versioned.2 char listed)).2.1
  have allowed : ∀ char ∈ address, (isRegNameChar (lowerChar char) || lowerChar char = ':') = true ∧
      lowerChar (lowerChar char) = lowerChar char := by
    intro char listed
    have known := all_eq_true.mp addressed.2 char listed
    rw [Bool.or_eq_true, decide_eq_true_eq] at known
    rcases known with plain | rfl
    · obtain ⟨kept, again⟩ := lowerChar_spec plain
      exact ⟨by simp [kept], again⟩
    · decide
  have address' : lower address ≠ [] ∧
      (lower address).all (fun char => isRegNameChar char || char = ':') = true := by
    refine ⟨by simpa [lower] using addressed.1, ?_⟩
    rw [lower, all_map, all_eq_true]
    intro char listed
    exact (allowed char listed).1
  have text : lower (mark :: (version ++ '.' :: address)) =
      'v' :: (lower version ++ '.' :: lower address) := by
    simp only [lower, map_cons, map_append, marked]
    rfl
  -- Lowering once more changes nothing.
  have digits : ∀ char ∈ version, lowerChar (lowerChar char) = lowerChar char := by
    intro char listed
    exact (hexDigit_spec (all_eq_true.mp versioned.2 char listed)).2.2.2.2
  have again : lower ('v' :: (lower version ++ '.' :: lower address)) =
      'v' :: (lower version ++ '.' :: lower address) := by
    have first : lower (lower version) = lower version := by
      simpa [lower] using digits
    have second : lower (lower address) = lower address := by
      simpa [lower] using fun char listed => (allowed char listed).2
    simp only [lower] at first second ⊢
    rw [map_cons, map_append, map_cons, first, second]
    rfl
  refine ⟨.future 'v' (lower version) (lower address) (by decide) version' address', .future ..,
    text.symm, ?_⟩
  exact congrArg (fun inner => '[' :: (inner ++ [']'])) again

/-- The normalized form of a host is itself a host with that normalized form. -/
theorem exists_normalHost (host : Host) :
    ∃ normal : Host, normal.written = host.normal render ∧
      normal.normal render = host.normal render ∧ (host.text ≠ [] → normal.text ≠ []) := by
  cases host with
  | name items =>
    obtain ⟨normal, texts, meanings⟩ := exists_normalItems items
    refine ⟨.name normal, texts, ?_, ?_⟩
    · rw [Host.normal, Host.normal, meanings]
    · -- A name is empty only without items.
      intro filled empty
      have none : normal = [] := by
        cases normal with
        | nil => rfl
        | cons item rest => cases item <;> cases empty
      rw [none, map_nil] at meanings
      have items' : items = [] := map_eq_nil_iff.mp meanings.symm
      rw [items'] at filled
      exact filled rfl
  | ipv6 text groups denotes =>
    have again := library.canonical text groups denotes
    refine ⟨.ipv6 (render groups) groups again, rfl, rfl, ?_⟩
    intro _ empty
    have empty' : render groups = [] := empty
    rw [empty'] at again
    cases again
  | future mark version address marked versioned addressed =>
    obtain ⟨host, literal, text, normal⟩ := exists_lowerFuture render marked
      versioned addressed
    refine ⟨host, ?_, ?_, ?_⟩
    · rw [literal.written_eq, text]
      rfl
    · rw [normal, text]
      rfl
    · intro _ empty
      rw [text] at empty
      cases empty

omit library in
/-- The port that counts is in range, and is the one of the authority if that has one. -/
theorem effectivePort_le (authority : Authority) (scheme : Text) :
    ∀ port ∈ authority.effectivePort scheme, port ≤ 65535 := by
  intro port counted
  have counted' : authority.effectivePort scheme = some port := counted
  unfold Authority.effectivePort at counted'
  split at counted'
  · unfold defaultPort at counted'
    split at counted'
    · cases counted'
      omega
    · split at counted'
      · cases counted'
        omega
      · cases counted'
  · rw [← Option.some.inj counted']
    exact authority.bounded

/-- Normalizing twice changes nothing more. -/
theorem normalizeAuthority_again (scheme : Text)
    (connectable : connect = true → authority.Connectable) :
    normalizeAuthority ipv6Compressed
        (renderAuthority (authority.host.normal render) (authority.effectivePort scheme)) scheme
        connect =
      .ok (authority.host.normal render, authority.effectivePort scheme) := by
  obtain ⟨host, written, normal, filled⟩ := exists_normalHost library authority.host
  have inRange := effectivePort_le authority scheme
  cases counted : authority.effectivePort scheme with
  | none =>
    -- Neither the authority nor the scheme has a port.
    have missing : authority.port.getD [] = [] ∧ defaultPort scheme = none := by
      unfold Authority.effectivePort at counted
      split at counted
      · rename_i empty
        exact ⟨empty, counted⟩
      · cases counted
    let again : Authority := ⟨host, none, rfl, by decide⟩
    have port : again.effectivePort scheme = none := missing.2
    have tunnel : connect = true → again.Connectable := by
      intro connecting
      obtain ⟨-, digits, ported, value⟩ := connectable connecting
      rw [ported] at missing
      have empty : digits = [] := missing.1
      rw [empty] at value
      exact absurd rfl value
    have returned := normalizeAuthority_eq library scheme tunnel
    have text : again.text = renderAuthority (authority.host.normal render) none := by
      rw [renderAuthority, ← written]
      rfl
    rw [port, normal, text] at returned
    exact returned
  | some number =>
    have bound : number ≤ 65535 := inRange number counted
    have bounded : textValue (Nat.toDigits 10 number) ≤ 65535 := by
      rw [textValue_toDigits]
      exact bound
    let again : Authority := ⟨host, some (Nat.toDigits 10 number), isDigit_toDigits number, bounded⟩
    have port : again.effectivePort scheme = some number := by
      have digits : ¬ (again.port.getD [] = []) := Nat.toDigits_ne_nil
      rw [Authority.effectivePort, if_neg digits]
      exact congrArg some (textValue_toDigits number)
    have tunnel : connect = true → again.Connectable := by
      intro connecting
      obtain ⟨hosted, digits, ported, value⟩ := connectable connecting
      refine ⟨filled hosted, Nat.toDigits 10 number, rfl, ?_⟩
      -- A port that is given and not zero is the one that counts.
      have given : authority.port.getD [] ≠ [] := by
        rw [ported]
        rintro empty
        have empty' : digits = [] := empty
        rw [empty'] at value
        exact value rfl
      rw [Authority.effectivePort, if_neg given, ported] at counted
      rw [textValue_toDigits, ← Option.some.inj counted]
      exact value
    have returned := normalizeAuthority_eq library scheme tunnel
    have text : again.text = renderAuthority (authority.host.normal render) (some number) := by
      rw [renderAuthority, ← written]
      rfl
    rw [port, normal, text] at returned
    exact returned

end Library

end Hosts

/--
Normalization is a canonical form of authorities in Latin-1.

The accepted text is that of the authorities of the grammar. Two of them are normalized to the same
pair exactly if their hosts are equivalent and their ports are the same number, after the default of
the scheme was put in for a missing or empty one. Writing the pair as an authority and normalizing
it again gives the same pair.
-/
theorem normalizeAuthority_canonical {ipv6Compressed : Text → Option Text}
    {render : List Nat → Text} (library : Ipv6Canonical ipv6Compressed render) (connect : Bool)
    (scheme : Text) :
    (∀ text, IsLatin1 text →
      ((∃ host, validateAuthority ipv6Compressed text connect = .ok host) ↔
        ∃ authority : Authority, text = authority.text ∧
          (connect = true → authority.Connectable))) ∧
    (∀ first second : Authority, (connect = true → first.Connectable) →
      (connect = true → second.Connectable) →
      (normalizeAuthority ipv6Compressed first.text scheme connect =
          normalizeAuthority ipv6Compressed second.text scheme connect ↔
        first.host.Equivalent second.host ∧
          first.effectivePort scheme = second.effectivePort scheme)) ∧
    (∀ text host port, IsLatin1 text →
      normalizeAuthority ipv6Compressed text scheme connect = .ok (host, port) →
        normalizeAuthority ipv6Compressed (renderAuthority host port) scheme connect =
          .ok (host, port)) := by
  refine ⟨?_, ?_, ?_⟩
  · intro text latin
    constructor
    · rintro ⟨host, valid⟩
      obtain ⟨authority, whole, -, connectable⟩ := exists_authority library.exact latin valid
      exact ⟨authority, whole, connectable⟩
    · rintro ⟨authority, whole, connectable⟩
      rw [whole]
      exact ⟨_, validateAuthority_text library.exact authority connectable⟩
  · intro first second connectable connectable'
    rw [normalizeAuthority_eq library scheme connectable,
      normalizeAuthority_eq library scheme connectable', ← normal_eq_iff library]
    simp
  · intro text host port latin normalized
    cases valid : validateAuthority ipv6Compressed text connect with
    | error message =>
      unfold normalizeAuthority at normalized
      rw [valid] at normalized
      cases normalized
    | ok found =>
      obtain ⟨authority, rfl, -, connectable⟩ := exists_authority library.exact latin valid
      rw [normalizeAuthority_eq library scheme connectable] at normalized
      obtain ⟨rfl, rfl⟩ := Prod.mk.inj (Except.ok.inj normalized)
      exact normalizeAuthority_again library scheme connectable

/-- The groups in hexadecimal digits, with a colon between two of them. -/
def hexGroups (groups : List Nat) : Text := join [':'] (groups.map (Nat.toDigits 16))

/-- An address with a double colon for the zeros it begins with. -/
def renderIpv6 : List Nat → Text
  | 0 :: rest => ':' :: ':' :: hexGroups (rest.dropWhile (· = 0))
  | groups => hexGroups groups

/-- A library that returns the same text for all spellings of an address. -/
def renderedIpv6 (text : Text) : Option Text := (ipv6Address text).map renderIpv6

section Rendering

variable {text : Text} {groups : List Nat} {group : Nat} {dotted : Bool}

/-- The digits of a group are read back. -/
theorem hexGroup_toDigits (small : group < 65536) :
    hexGroup (Nat.toDigits 16 group) = some group := by
  obtain ⟨among, reads⟩ := Digits.toDigits_spec (by decide : 1 < 16) le_rfl group
  have digits : ∀ char ∈ Digits.alphabet, isHexDigit char = true ∧
      hexValue char = Digits.charValue char := by
    -- The alphabet is searched, and not the type of all characters.
    have all : Digits.alphabet.all (fun char =>
      isHexDigit char && hexValue char == Digits.charValue char) = true := by decide
    simpa only [all_eq_true, Bool.and_eq_true, beq_iff_eq] using all
  have length := (Nat.length_toDigits_le_iff (by decide : 1 < 16) (by decide : 0 < 4)).mpr small
  unfold hexGroup
  rw [if_pos ⟨Nat.toDigits_ne_nil, length,
    all_eq_true.mpr fun char listed => (digits char (among char listed)).1⟩]
  rw [foldl_ext _ _ 0 fun high char listed =>
    congrArg (high * 16 + ·) (digits char (among char listed)).2]
  exact congrArg some reads

theorem not_mem_toDigits (other : char ∉ Digits.alphabet) : char ∉ Nat.toDigits 16 group :=
  fun among => other ((Digits.toDigits_spec (by decide) le_rfl group).1 char among)

theorem colon_not_mem_toDigits : ∀ part ∈ groups.map (Nat.toDigits 16), ':' ∉ part := by
  intro part listed
  obtain ⟨group, -, rfl⟩ := mem_map.mp listed
  exact not_mem_toDigits (by decide)

theorem filled_toDigits : ∀ part ∈ groups.map (Nat.toDigits 16), part ≠ [] := by
  intro part listed
  obtain ⟨group, -, rfl⟩ := mem_map.mp listed
  exact Nat.toDigits_ne_nil

/-- Groups in digits are read back in their order. -/
theorem ipv6Groups_toDigits (small : ∀ group ∈ groups, group < 65536) :
    ipv6Groups true (groups.map (Nat.toDigits 16)) = some groups := by
  induction groups with
  | nil => rfl
  | cons group rest ih =>
    obtain ⟨here, later⟩ := forall_mem_cons.mp small
    cases rest with
    | nil =>
      have undotted : '.' ∉ Nat.toDigits 16 group := not_mem_toDigits (by decide)
      simp [ipv6Groups, undotted, hexGroup_toDigits here]
    | cons next rest =>
      simp only [map_cons] at ih ⊢
      simp [ipv6Groups, hexGroup_toDigits here, ih later]

/-- Written groups are read back. -/
theorem ipv6Groups_hexGroups (small : ∀ group ∈ groups, group < 65536) (nonempty : groups ≠ []) :
    ipv6Groups true (split [':'] (hexGroups groups)) = some groups := by
  rw [hexGroups, split_join_of_not_mem (by simpa using nonempty) colon_not_mem_toDigits,
    ipv6Groups_toDigits small]

theorem ipv6Side_hexGroups (small : ∀ group ∈ groups, group < 65536) :
    ipv6Side true (hexGroups groups) = some groups := by
  unfold ipv6Side
  split
  · rename_i empty
    rw [map_eq_nil_iff.mp ((join_eq_nil filled_toDigits).mp empty)]
  · rename_i nonempty
    refine ipv6Groups_hexGroups small ?_
    rintro rfl
    exact nonempty rfl

/-- Between two groups in digits there is a single colon. -/
theorem single_colons (nonempty : groups ≠ []) : find? [':', ':'] (hexGroups groups) = none := by
  have first : find? [':', ':'] (hexGroups groups ++ [':', ':']) = some (hexGroups groups).length :=
    find?_join not_mem_nil (by simpa using nonempty) filled_toDigits colon_not_mem_toDigits
  cases found : find? [':', ':'] (hexGroups groups) with
  | none => rfl
  | some position =>
    -- An occurrence before the colons that were added would have been found.
    have within := find?_within found
    obtain rfl := Option.some.inj ((find?_append found [':', ':']).symm.trans first)
    simp at within

/-- What is dropped in front is zeros. -/
theorem exists_zeros (groups : List Nat) :
    ∃ zeros, groups = List.replicate zeros 0 ++ groups.dropWhile (· = 0) := by
  induction groups with
  | nil => exact ⟨0, rfl⟩
  | cons group rest ih =>
    cases group with
    | zero =>
      obtain ⟨zeros, same⟩ := ih
      exact ⟨zeros + 1, congrArg (0 :: ·) same⟩
    | succ group => exact ⟨0, rfl⟩

/-- What an address is rendered as denotes it. -/
theorem ipv6Address_renderIpv6 (eight : groups.length = 8)
    (small : ∀ group ∈ groups, group < 65536) : ipv6Address (renderIpv6 groups) = some groups := by
  unfold renderIpv6
  split
  · -- The double colon stands for the zeros that were dropped.
    rename_i rest
    obtain ⟨zeros, whole⟩ := exists_zeros rest
    generalize rest.dropWhile (· = 0) = shown at whole ⊢
    obtain rfl := whole
    have first : find? [':', ':'] (':' :: ':' :: hexGroups shown) = some 0 := by simp [Search.find?]
    have high : ipv6Side false [] = some [] := rfl
    have low := ipv6Side_hexGroups fun group among =>
      small group (mem_cons_of_mem 0 (mem_append_right (List.replicate zeros 0) among))
    have total : zeros + shown.length = 7 := by simpa using eight
    have absent : 8 - shown.length = zeros + 1 := by omega
    have room : shown.length ≤ 7 := by omega
    simp [ipv6Address, first, high, low, room, absent, replicate_succ]
  · have nonempty : groups ≠ [] := ne_nil_of_length_pos (by omega)
    simp [ipv6Address, single_colons nonempty, ipv6Groups_hexGroups small nonempty, eight]

end Rendering

/-- The library is canonical. -/
theorem renderedIpv6_canonical : Ipv6Canonical renderedIpv6 renderIpv6 where
  compressed _ _ := rfl
  canonical _ _ denotes :=
    ipv6Address_renderIpv6 (ipv6Address_spec denotes).2.1 (ipv6Address_spec denotes).2.2

/-- Two spellings of an address, of which one has the port that the scheme stands for. -/
theorem normalizeAuthority_canonical_loopback :
    normalizeAuthority renderedIpv6 "[::1]".toList "http".toList false =
      normalizeAuthority renderedIpv6 "[0:0::0001]:80".toList "http".toList false ∧
    normalizeAuthority renderedIpv6 "[::1]".toList "http".toList false =
      .ok ("[::1]".toList, some 80) := by
  have first : ipv6Address "::1".toList = some [0, 0, 0, 0, 0, 0, 0, 1] := by decide +kernel
  have second : ipv6Address "0:0::0001".toList = some [0, 0, 0, 0, 0, 0, 0, 1] := by decide +kernel
  have same := (normalizeAuthority_canonical renderedIpv6_canonical false "http".toList).2.1
    ⟨.ipv6 _ _ first, none, rfl, by decide⟩ ⟨.ipv6 _ _ second, some "80".toList, by decide, by decide⟩
    (fun tunnel => absurd tunnel (by decide)) (fun tunnel => absurd tunnel (by decide))
  exact ⟨same.mpr ⟨rfl, rfl⟩, by decide +kernel⟩

/--
Beyond Latin-1 the form is not canonical.

The Kelvin sign is matched as a letter of a future address and lowered to `k`, so that two literals
that differ in more than ASCII case are normalized to the same pair. The dotted capital I is lowered
to two characters, of which the second is not matched, so that its normalized form is refused.
-/
theorem kelvin_sign_normalized :
    validateAuthority renderedIpv6 "[v1.\u212A]".toList false = .ok "v1.\u212A".toList ∧
    validateAuthority renderedIpv6 "[v1.k]".toList false = .ok "v1.k".toList ∧
    normalizeAuthority renderedIpv6 "[v1.\u212A]".toList "http".toList false =
      normalizeAuthority renderedIpv6 "[v1.k]".toList "http".toList false ∧
    lower "v1.\u212A".toList ≠ lower "v1.k".toList ∧
    normalizeAuthority renderedIpv6 "[v1.\u0130]".toList "http".toList false =
      .ok ("[v1.i\u0307]".toList, some 80) ∧
    normalizeAuthority renderedIpv6 (renderAuthority "[v1.i\u0307]".toList (some 80)) "http".toList
      false = .error "Invalid IP literal in authority" := by
  decide +kernel

end SolveTls
