import SolveTls.Http1.UriGrammar
import SolveTls.Proofs.Http1.Requests

/-! The validator of authorities accepts exactly those of the grammar, and returns their host. -/

namespace SolveTls

open Search List

variable {host : Host} {int : Text → Except Exn Nat}

/-! ### Registered names -/

/-- Registered names are made of plain characters and of escapes. -/
theorem isRegName_iff {text : Text} :
    isRegName text = true ↔ ∃ items : List NameItem, text = items.flatMap NameItem.text := by
  constructor
  · -- The induction follows the check, which passes an escape as a whole.
    intro named
    unfold isRegName at named
    induction text using isEscaped.induct with
    | case1 => exact ⟨[], rfl⟩
    | case2 high low rest ih =>
      simp only [isEscaped, Bool.and_eq_true] at named
      obtain ⟨items, rfl⟩ := ih named.2
      exact ⟨.escape high low named.1 :: items, rfl⟩
    | case3 char rest noEscape ih =>
      rw [isEscaped] at named
      · rw [Bool.and_eq_true] at named
        obtain ⟨items, rfl⟩ := ih named.2
        exact ⟨.plain char named.1 :: items, rfl⟩
      · exact noEscape
  · rintro ⟨items, rfl⟩
    unfold isRegName
    induction items with
    | nil => rfl
    | cons item items ih =>
      rw [flatMap_cons]
      cases item with
      | plain char allowed =>
        have other : char ≠ '%' := by
          rintro rfl
          exact absurd allowed (by decide)
        show isEscaped isRegNameChar (char :: items.flatMap NameItem.text) = true
        rw [isEscaped, allowed, ih]
        · rfl
        · intro high low rest same
          exact absurd same other
      | escape high low digits =>
        show isEscaped isRegNameChar ('%' :: high :: low :: items.flatMap NameItem.text) = true
        rw [isEscaped, digits.1, digits.2, ih]
        rfl

/-- A colon ends a registered name. -/
theorem colon_not_mem_name (items : List NameItem) : ':' ∉ items.flatMap NameItem.text :=
  (plain_of_isRegName (isRegName_iff.mpr ⟨items, rfl⟩)).2

/-! ### Literals -/

/-- A future address is made of a mark, a version, a dot and an address. -/
theorem parts_of_isIpvFuture {text : Text} (latin : IsLatin1 text)
    (future : isIpvFuture text = true) : ∃ mark version address,
      lowerChar mark = 'v' ∧ (version ≠ [] ∧ version.all isHexDigit = true) ∧
      (address ≠ [] ∧ address.all (fun char => isRegNameChar char || char = ':') = true) ∧
      text = mark :: (version ++ '.' :: address) := by
  cases text with
  | nil => cases future
  | cons mark rest =>
    have parts := (takeWhile_append_dropWhile (p := isHexDigit) (l := rest)).symm
    rw [isIpvFuture] at future
    split at future
    · rename_i address behind
      simp only [Bool.and_eq_true, decide_eq_true_eq, Bool.not_eq_true', isEmpty_eq_false_iff]
        at future
      obtain ⟨⟨⟨marked, version⟩, filled⟩, allowed⟩ := future
      rw [behind] at parts
      -- Latin-1 has none of the letters that are matched in addition.
      have plain : address.all (fun char => isRegNameChar char || char = ':') = true := by
        rw [all_eq_true] at allowed ⊢
        intro char among
        have inside : char ∈ mark :: rest := by
          rw [parts]
          simp [among]
        have known := allowed char among
        rwa [not_foldsToLetter (latin char inside), Bool.or_false] at known
      exact ⟨mark, rest.takeWhile isHexDigit, address, marked, ⟨version, all_takeWhile⟩,
        ⟨filled, plain⟩, congrArg (mark :: ·) parts⟩
    · cases future

theorem isIpvFuture_of_parts {mark : Char} {version address : Text} (marked : lowerChar mark = 'v')
    (versioned : version ≠ [] ∧ version.all isHexDigit = true)
    (addressed : address ≠ [] ∧ address.all (fun char => isRegNameChar char || char = ':') = true) :
    isIpvFuture (mark :: (version ++ '.' :: address)) = true := by
  have stops : ('.' :: address).head?.any isHexDigit = false := rfl
  obtain ⟨taken, left⟩ := span_append versioned.2 stops
  have allowed : address.all (fun char => isRegNameChar char || char = ':' || foldsToLetter char) =
      true := by
    rw [all_eq_true]
    intro char among
    rw [all_eq_true.mp addressed.2 char among, Bool.true_or]
  rw [isIpvFuture, left, taken]
  simp only [marked, allowed, Bool.and_true, decide_true, Bool.true_and]
  simp [versioned.1, addressed.1]

/-! ### IPv6 addresses -/

/-- All hexadecimal digits in either case. -/
def hexAlphabet : List Char := "0123456789abcdefABCDEF".toList

theorem mem_hexAlphabet {char : Char} (digit : isHexDigit char = true) : char ∈ hexAlphabet := by
  have range : char.toNat < 128 := by
    have printable := isPrintable_iff.mp (isPrintable_of_isHexDigit digit)
    omega
  have listed : ∀ value < 128, isHexDigit (Char.ofNat value) = true →
      Char.ofNat value ∈ hexAlphabet := by decide +kernel
  have known := listed char.toNat range
  rw [Char.ofNat_toNat] at known
  exact known digit

/-- The upper-case character of a hexadecimal digit. -/
def upperDigit (value : Nat) : Char := upperHex (Nat.digitChar value)

/-- A hexadecimal digit in any case has one value, and one upper-case form. -/
theorem hexDigit_spec {char : Char} (digit : isHexDigit char = true) :
    hexValue char < 16 ∧ isHexDigit (lowerChar char) = true ∧
      hexValue (lowerChar char) = hexValue char ∧
      upperHex (lowerChar char) = upperDigit (hexValue char) ∧
      lowerChar (lowerChar char) = lowerChar char := by
  have all : hexAlphabet.all (fun other => hexValue other < 16 ∧ isHexDigit (lowerChar other) ∧
      hexValue (lowerChar other) = hexValue other ∧
      upperHex (lowerChar other) = upperDigit (hexValue other) ∧
      lowerChar (lowerChar other) = lowerChar other) = true := by
    decide +kernel
  simpa using all_eq_true.mp all char (mem_hexAlphabet digit)

/-- The characters of an IPv6 address. -/
def isAddressChar (char : Char) : Bool := isHexDigit char || char = '.' || char = ':'

section Ipv6Addresses

variable {char : Char} {text : Text} {groups : List Nat} {group : Nat} {dotted : Bool}

/-- A text of another class than a character does not contain it. -/
theorem not_mem_of_all {keep : Char → Bool} (kept : text.all keep = true)
    (other : keep char = false) : char ∉ text := by
  intro among
  rw [all_eq_true.mp kept char among] at other
  cases other

/-- Digits behind a number multiply it by powers of sixteen. -/
theorem hexValues_lt (digits : text.all isHexDigit = true) (high : Nat) :
    text.foldl (fun high digit => high * 16 + hexValue digit) high <
      (high + 1) * 16 ^ text.length := by
  induction text generalizing high with
  | nil => simp
  | cons digit rest ih =>
    rw [all_cons, Bool.and_eq_true] at digits
    have small := (hexDigit_spec digits.1).1
    calc _ < (high * 16 + hexValue digit + 1) * 16 ^ rest.length := ih digits.2 _
      _ ≤ (high + 1) * 16 * 16 ^ rest.length := Nat.mul_le_mul_right _ (by omega)
      _ = _ := by rw [length_cons, pow_succ', Nat.mul_assoc]

/-- A group is written in hexadecimal digits and has sixteen bits. -/
theorem hexGroup_spec (known : hexGroup text = some group) :
    (∀ char ∈ text, isAddressChar char = true) ∧ group < 65536 := by
  unfold hexGroup at known
  split at known
  · rename_i valid
    obtain rfl := Option.some.inj known
    have bound := hexValues_lt valid.2.2 0
    have power : 16 ^ text.length ≤ 16 ^ 4 := Nat.pow_le_pow_right (by decide) valid.2.1
    refine ⟨fun char among => ?_, by omega⟩
    simp [isAddressChar, all_eq_true.mp valid.2.2 char among]
  · cases known

/-- An octet is written in decimal digits and has eight bits. -/
theorem ipv4Octet_spec (known : ipv4Octet text = some group) :
    (∀ char ∈ text, isAddressChar char = true) ∧ group < 256 := by
  unfold ipv4Octet at known
  split at known
  · rename_i valid
    obtain rfl := Option.some.inj known
    refine ⟨fun char among => ?_, by omega⟩
    simp [isAddressChar, isHexDigit_of_isDigit (all_eq_true.mp valid.2.2.1 char among)]
  · cases known

theorem ipv4Groups_spec (known : ipv4Groups text = some groups) :
    (∀ char ∈ text, isAddressChar char = true) ∧ ∀ group ∈ groups, group < 65536 := by
  unfold ipv4Groups at known
  split at known
  · rename_i first second third fourth pieces
    simp only [Option.bind_eq_bind, Option.bind_eq_some_iff] at known
    obtain ⟨_, one, _, two, _, three, _, four, same⟩ := known
    obtain rfl := Option.some.inj same
    obtain ⟨ones, one⟩ := ipv4Octet_spec one
    obtain ⟨twos, two⟩ := ipv4Octet_spec two
    obtain ⟨threes, three⟩ := ipv4Octet_spec three
    obtain ⟨fours, four⟩ := ipv4Octet_spec four
    constructor
    · -- The four octets are joined to the text again.
      rw [← join_split ['.'] text, pieces]
      exact forall_mem_join (forall_mem_singleton.mpr rfl) (forall_mem_cons.mpr
        ⟨ones, forall_mem_cons.mpr ⟨twos, forall_mem_cons.mpr
          ⟨threes, forall_mem_singleton.mpr fours⟩⟩⟩)
    · simp only [mem_cons, not_mem_nil, or_false, forall_eq_or_imp, forall_eq]
      omega
  · cases known

theorem ipv6Groups_spec {pieces : List Text} (known : ipv6Groups dotted pieces = some groups) :
    (∀ piece ∈ pieces, ∀ char ∈ piece, isAddressChar char = true) ∧
      ∀ group ∈ groups, group < 65536 := by
  fun_induction ipv6Groups dotted pieces generalizing groups with
  | case1 =>
    obtain rfl := Option.some.inj known
    simp
  | case2 last address => simpa using ipv4Groups_spec known
  | case3 last plain =>
    obtain ⟨group, single, rfl⟩ := Option.map_eq_some_iff.mp known
    simpa using hexGroup_spec single
  | case4 piece rest more ih =>
    simp only [Option.bind_eq_bind, Option.bind_eq_some_iff] at known
    obtain ⟨group, single, others, later, same⟩ := known
    obtain rfl := Option.some.inj same
    rw [forall_mem_cons, forall_mem_cons]
    exact ⟨⟨(hexGroup_spec single).1, (ih later).1⟩, (hexGroup_spec single).2, (ih later).2⟩

/-- The pieces between colons are joined to the text again. -/
theorem ipv6Pieces_spec (known : ipv6Groups dotted (split [':'] text) = some groups) :
    (∀ char ∈ text, isAddressChar char = true) ∧ ∀ group ∈ groups, group < 65536 := by
  refine ⟨?_, (ipv6Groups_spec known).2⟩
  rw [← join_split [':'] text]
  exact forall_mem_join (forall_mem_singleton.mpr rfl) (ipv6Groups_spec known).1

theorem ipv6Side_spec (known : ipv6Side dotted text = some groups) :
    (∀ char ∈ text, isAddressChar char = true) ∧ ∀ group ∈ groups, group < 65536 := by
  unfold ipv6Side at known
  split at known
  · rename_i empty
    obtain rfl := Option.some.inj known
    simp [empty]
  · exact ipv6Pieces_spec known

/-- An address is made of digits, colons and dots, and has eight groups of sixteen bits. -/
theorem ipv6Address_spec (known : ipv6Address text = some groups) :
    (∀ char ∈ text, isAddressChar char = true) ∧
      groups.length = 8 ∧ ∀ group ∈ groups, group < 65536 := by
  unfold ipv6Address at known
  split at known
  · obtain ⟨found, eight⟩ := Option.filter_eq_some_iff.mp known
    obtain ⟨chars, bounds⟩ := ipv6Pieces_spec found
    exact ⟨chars, of_decide_eq_true eight, bounds⟩
  · rename_i position found
    simp only [Option.bind_eq_bind, Option.bind_eq_some_iff] at known
    obtain ⟨high, left, low, right, known⟩ := known
    obtain ⟨-, ⟨more, occurs⟩, -⟩ := find?_eq_some.mp found
    obtain ⟨before, highs⟩ := ipv6Side_spec left
    obtain ⟨after, lows⟩ := ipv6Side_spec right
    split at known
    · obtain rfl := Option.some.inj known
      refine ⟨?_, ?_, ?_⟩
      · -- The text is its two sides around the double colon.
        rw [← take_append_drop position text, ← take_append_drop 2 (text.drop position),
          drop_drop, forall_mem_append, forall_mem_append, ← occurs]
        exact ⟨before, by simp [isAddressChar], after⟩
      · simp only [length_append, length_replicate]
        omega
      · simp only [forall_mem_append]
        refine ⟨⟨highs, fun group zero => ?_⟩, lows⟩
        rw [eq_of_mem_replicate zero]
        decide
    · cases known

theorem not_mem_ipv6Address (known : ipv6Address text = some groups)
    (other : isAddressChar char = false) : char ∉ text :=
  not_mem_of_all (all_eq_true.mpr (ipv6Address_spec known).1) other

end Ipv6Addresses

/-! ### Authorities -/

/-- What stands in the brackets of a literal. -/
inductive Host.InBrackets : Host → Prop where
  | ipv6 (text : Text) (groups : List Nat) (denotes : ipv6Address text = some groups) :
    InBrackets (.ipv6 text groups denotes)
  | future (mark : Char) (version address : Text) (marked versioned addressed) :
    InBrackets (.future mark version address marked versioned addressed)

theorem Host.InBrackets.written_eq (literal : host.InBrackets) :
    host.written = '[' :: (host.text ++ [']']) := by
  cases literal <;> rfl

/-- No literal contains a bracket. -/
theorem Host.InBrackets.closing_not_mem (literal : host.InBrackets) :
    ']' ∉ host.text := by
  cases literal with
  | ipv6 text groups denotes =>
    exact not_mem_ipv6Address denotes (by decide)
  | future mark version address marked versioned addressed =>
    have noMark : ']' ≠ mark := by
      rintro rfl
      exact absurd marked (by decide)
    have noVersion : ']' ∉ version := not_mem_of_all versioned.2 (by decide)
    have noAddress : ']' ∉ address := not_mem_of_all addressed.2 (by decide)
    simp only [Host.text, mem_cons, mem_append, not_or]
    exact ⟨noMark, noVersion, by decide, noAddress⟩

section Splitting

variable {ipv6Compressed : Text → Option Text}
variable {connect : Bool}

/-- What stands in brackets is accepted. -/
theorem Host.InBrackets.known (exact : Ipv6Exact ipv6Compressed) (literal : host.InBrackets) :
    IsLiteral ipv6Compressed host.text := by
  cases literal with
  | ipv6 text groups denotes =>
    have unscoped : '%' ∉ text := not_mem_ipv6Address denotes (by decide)
    refine .inr ⟨unscoped, ?_⟩
    show (ipv6Compressed text).isSome = true
    rw [exact text unscoped, denotes]
    rfl
  | future mark version address marked versioned addressed =>
    exact .inl (isIpvFuture_of_parts marked versioned addressed)

/-- What is accepted between brackets is a literal. -/
theorem exists_inBrackets (exact : Ipv6Exact ipv6Compressed) {inner : Text} (latin : IsLatin1 inner)
    (known : IsLiteral ipv6Compressed inner) :
    ∃ host : Host, host.InBrackets ∧ inner = host.text := by
  rcases known with future | ⟨unscoped, address⟩
  · obtain ⟨mark, version, address, marked, versioned, addressed, rfl⟩ :=
      parts_of_isIpvFuture latin future
    exact ⟨.future mark version address marked versioned addressed, .future .., rfl⟩
  · rw [exact inner unscoped] at address
    obtain ⟨groups, denotes⟩ := Option.isSome_iff_exists.mp address
    exact ⟨.ipv6 inner groups denotes, .ipv6 .., rfl⟩

theorem Host.InBrackets.text_eq (literal : host.InBrackets) (port : Option Text) :
    host.written ++ portSuffix port = '[' :: (host.text ++ ']' :: portSuffix port) := by
  rw [literal.written_eq]
  simp

theorem Host.InBrackets.partition_eq (literal : host.InBrackets) (suffix : Text) :
    partition ']' (host.text ++ ']' :: suffix) = (host.text, some suffix) :=
  partition_append literal.closing_not_mem

/-- A literal in brackets is split from its port. -/
theorem splitAuthority_literal (exact : Ipv6Exact ipv6Compressed) (literal : host.InBrackets)
    (port : Option Text) :
    splitAuthority ipv6Compressed (host.written ++ portSuffix port) = .ok (host.text, port) := by
  rw [literal.text_eq]
  exact splitAuthority_bracketed literal.closing_not_mem (literal.known exact) port

/-- Neither a name nor the colon of a port is a bracket. -/
theorem name_ne_bracket (items : List NameItem) (port : Option Text) (literal : Text) :
    items.flatMap NameItem.text ++ portSuffix port ≠ '[' :: literal := by
  intro begins
  cases items with
  | nil => cases port <;> cases begins
  | cons item items =>
    cases item with
    | plain char allowed =>
      rw [(List.cons.inj begins).1] at allowed
      exact absurd allowed (by decide)
    | escape high low digits => cases (List.cons.inj begins).1

theorem partition_name (items : List NameItem) (port : Option Text) :
    partition ':' (items.flatMap NameItem.text ++ portSuffix port) =
      (items.flatMap NameItem.text, port) :=
  partition_portSuffix (colon_not_mem_name items) port

/-- So is a name. -/
theorem splitAuthority_name (items : List NameItem) (port : Option Text) :
    splitAuthority ipv6Compressed (items.flatMap NameItem.text ++ portSuffix port) =
      .ok (items.flatMap NameItem.text, port) :=
  splitAuthority_named (isRegName_iff.mpr ⟨items, rfl⟩) port

section Exact

variable (exact : Ipv6Exact ipv6Compressed)

include exact

/-- A written host is split from its port. -/
theorem splitAuthority_written (host : Host) (port : Option Text) :
    splitAuthority ipv6Compressed (host.written ++ portSuffix port) = .ok (host.text, port) := by
  cases host with
  | name items => exact splitAuthority_name items port
  | ipv6 text groups denotes => exact splitAuthority_literal exact (.ipv6 ..) port
  | future mark version address marked versioned addressed =>
    exact splitAuthority_literal exact (.future ..) port

/-- An authority is split into a host and what follows its colon. -/
theorem exists_host_of_split {text hostText : Text} {port : Option Text} (latin : IsLatin1 text)
    (split : splitAuthority ipv6Compressed text = .ok (hostText, port)) :
    ∃ host : Host, hostText = host.text ∧ text = host.written ++ portSuffix port := by
  rcases splitAuthority_eq_ok.mp split with ⟨rfl, -, known⟩ | ⟨rfl, named⟩
  · have latin' : IsLatin1 hostText := fun char among => latin char (by simp [among])
    obtain ⟨host, literal, rfl⟩ := exists_inBrackets exact latin' known
    exact ⟨host, rfl, (literal.text_eq port).symm⟩
  · obtain ⟨items, rfl⟩ := isRegName_iff.mp named
    exact ⟨.name items, rfl, rfl⟩

/-- Authorities of the grammar are accepted, and their host is returned. -/
theorem validateAuthority_text (authority : Authority)
    (connectable : connect = true → authority.Connectable) :
    validateAuthority ipv6Compressed authority.text connect = .ok authority.host.text := by
  obtain ⟨host, port, numeric, bounded⟩ := authority
  refine validateAuthority_eq_ok.mpr ⟨port, splitAuthority_written exact host port, ?_, ?_⟩
  · rintro ⟨tunnel, missing⟩
    obtain ⟨hosted, digits, ported, value⟩ := connectable tunnel
    have same : port = some digits := ported
    rcases missing with none | none
    · exact hosted none
    · rw [same] at none
      have empty : digits = [] := none
      rw [empty] at value
      exact value rfl
  · intro digits ported
    obtain rfl : port = some digits := ported
    refine validatePort_eq_ok.mpr ⟨numeric, bounded, ?_⟩
    intro tunnel
    obtain ⟨-, digits', ported', value⟩ := connectable tunnel
    have same : some digits = some digits' := ported'
    rw [Option.some.inj same]
    exact value

/-- What is accepted is an authority of the grammar, as long as it is Latin-1. -/
theorem exists_authority {text hostText : Text} (latin : IsLatin1 text)
    (valid : validateAuthority ipv6Compressed text connect = .ok hostText) :
    ∃ authority : Authority, text = authority.text ∧ hostText = authority.host.text ∧
      (connect = true → authority.Connectable) := by
  obtain ⟨port, split, required, checked⟩ := validateAuthority_eq_ok.mp valid
  obtain ⟨host, rfl, rfl⟩ := exists_host_of_split exact latin split
  have inRange : (port.getD []).all isDigit = true ∧ textValue (port.getD []) ≤ 65535 := by
    cases port with
    | none => exact ⟨rfl, by decide⟩
    | some digits =>
      have passed := validatePort_eq_ok.mp (checked digits rfl)
      exact ⟨passed.1, passed.2.1⟩
  refine ⟨⟨host, port, inRange.1, inRange.2⟩, rfl, rfl, ?_⟩
  intro tunnel
  rw [not_and, not_or] at required
  obtain ⟨hosted, ported⟩ := required tunnel
  refine ⟨hosted, ?_⟩
  cases port with
  | none => exact absurd rfl ported
  | some digits => exact ⟨digits, rfl, (validatePort_eq_ok.mp (checked digits rfl)).2.2 tunnel⟩

end Exact

end Splitting

/-! ### Conversions -/

theorem digits_significantDigits {digits : Text} (numeric : digits.all isDigit = true) :
    significantDigits digits ≠ [] ∧ (significantDigits digits).all isDigit = true := by
  rw [significantDigits_eq numeric]
  exact ⟨Nat.toDigits_ne_nil, isDigit_toDigits _⟩

/-- Only up to five digits are converted, so nothing else that `int` does matters. -/
theorem validatePortWith_eq (converts : ConvertsFive int) (connect : Bool) (port : Text) :
    validatePortWith int connect port = asValueError (validatePort connect port) := by
  unfold validatePortWith validatePort
  by_cases flawed : port ≠ [] ∧ ¬ port.all isDigit
  · simp only [if_pos flawed]
    rfl
  · have numeric : port.all isDigit = true := by
      by_contra other
      apply flawed
      refine ⟨?_, other⟩
      intro empty
      rw [empty] at other
      exact other rfl
    obtain ⟨nonempty, digits⟩ := digits_significantDigits numeric
    simp only [if_neg flawed]
    by_cases wide : (significantDigits port).length > 5
    · -- The number of digits decides before they would be converted.
      simp only [portOutOfRange, wide, if_true, true_or]
      rfl
    · have value := converts _ nonempty digits (by omega)
      simp only [portOutOfRange, wide, if_false, false_or, value]
      show (if decide _ = true then _ else _) = _
      simp only [decide_eq_true_eq]
      split
      · rfl
      · split
        · rfl
        · rfl

/-- The integer conversion never fails on a port. -/
theorem validateAuthorityWith_eq (converts : ConvertsFive int) (ipv6Compressed : Text → Option Text)
    (authority : Text) (connect : Bool) :
    validateAuthorityWith int ipv6Compressed authority connect =
      asValueError (validateAuthority ipv6Compressed authority connect) := by
  unfold validateAuthorityWith validateAuthority
  cases splitAuthority ipv6Compressed authority with
  | error message => rfl
  | ok parts =>
    obtain ⟨host, port⟩ := parts
    show (if _ then _ else _) = asValueError (if _ then _ else _)
    by_cases missing : connect = true ∧ (host = [] ∨ port.getD [] = [])
    · rw [if_pos missing, if_pos missing]
      rfl
    · rw [if_neg missing, if_neg missing]
      cases port with
      | none => rfl
      | some digits =>
        simp only [validatePortWith_eq converts]
        cases validatePort connect digits with
        | error message => rfl
        | ok value => rfl

/--
The validator accepts exactly a host and an optional port.

Text of octets is accepted if it is an authority of the grammar, and with `connect` one with a host
and a port that is not zero; the host is returned as it is written. With any `int` that converts up
to five digits, whatever it does with other text, the outcome is the same and only a `ValueError` is
raised.
-/
theorem validateAuthority_grammar {ipv6Compressed : Text → Option Text}
    (exact : Ipv6Exact ipv6Compressed) (octets : Bytes) (connect : Bool) :
    (∀ host, validateAuthority ipv6Compressed (asText octets) connect = .ok host ↔
      ∃ authority : Authority, asText octets = authority.text ∧ host = authority.host.text ∧
        (connect = true → authority.Connectable)) ∧
    ∀ int, ConvertsFive int →
      validateAuthorityWith int ipv6Compressed (asText octets) connect =
        asValueError (validateAuthority ipv6Compressed (asText octets) connect) ∧
      RaisesOnly Exn.isValueError
        (validateAuthorityWith int ipv6Compressed (asText octets) connect) := by
  refine ⟨?_, ?_⟩
  · intro host
    constructor
    · intro valid
      exact exists_authority exact (isLatin1_asText octets) valid
    · rintro ⟨authority, whole, rfl, connectable⟩
      rw [whole]
      exact validateAuthority_text exact authority connectable
  intro int converts
  have same := validateAuthorityWith_eq converts ipv6Compressed (asText octets) connect
  refine ⟨same, ?_⟩
  rw [same]
  exact raisesOnly_asValueError _

/-- A library that returns addresses as they are written. -/
def writtenIpv6 (text : Text) : Option Text := (ipv6Address text).map fun _ => text

/-- A conversion that raises where there are more than five digits. -/
def shortInt (digits : Text) : Except Exn Nat :=
  if digits.length ≤ 5 then .ok (textValue digits) else .error (.other "Too many digits")

/-- An address with a port of more than five digits, most of which are zeros. -/
theorem validateAuthority_grammar_address :
    (∃ authority : Authority, asText (ascii "[::1]:00000080") = authority.text ∧
      "::1".toList = authority.host.text ∧ (true = true → authority.Connectable)) ∧
    RaisesOnly Exn.isValueError
      (validateAuthorityWith shortInt writtenIpv6 (asText (ascii "[::1]:00000080")) true) := by
  have exact : Ipv6Exact writtenIpv6 := by
    intro text _
    rw [writtenIpv6, Option.isSome_map]
  have converts : ConvertsFive shortInt := by
    intro digits _ _ short
    exact if_pos short
  have grammar := validateAuthority_grammar exact (ascii "[::1]:00000080") true
  exact ⟨(grammar.1 _).mp (by decide +kernel), (grammar.2 shortInt converts).2⟩

end SolveTls
