import SolveTls.Http1.RequestFormat
import SolveTls.Http1.UriGrammar
import SolveTls.Proofs.Http.Numbers

/-! The characters that tokens, authorities and targets can consist of. -/

namespace SolveTls

open Search List

variable {char : Char} {allowed : Char → Bool} {text authority host target : Text}
  {ipv6Compressed : Text → Option Text} {connect : Bool} {port : Option Text} {library : UriLibrary}
  {α : Type}

/-! ### Octets as text -/

/-- The octet that a character was decoded from. -/
theorem toNat_ofNat_octet (octet : UInt8) : (Char.ofNat octet.toNat).toNat = octet.toNat := by
  have small := octet.toNat_lt
  have valid : octet.toNat.isValidChar := .inl (by omega)
  rw [Char.ofNat, dif_pos valid]
  rfl

/-- Octets survive being read as text. -/
theorem asOctets_asText (octets : Bytes) : asOctets (asText octets) = octets := by
  simp [asOctets, asText, toNat_ofNat_octet, Function.comp_def]

/-- Decoding loses nothing. -/
theorem asText_injective {first second : Bytes} (same : asText first = asText second) :
    first = second := by
  rw [← asOctets_asText first, same, asOctets_asText]

/-- Octets are decoded to Latin-1. -/
theorem isLatin1_asText (octets : Bytes) : IsLatin1 (asText octets) := by
  intro char among
  obtain ⟨octet, -, rfl⟩ := mem_map.mp among
  rw [toNat_ofNat_octet]
  exact octet.toNat_lt

/-- There is one character for each octet. -/
theorem length_asText (octets : Bytes) : (asText octets).length = octets.length :=
  length_map ..

/-! ### Printable characters -/

/-- Printable characters are those between the space and DEL. -/
theorem isPrintable_iff :
    isPrintable char = true ↔ 32 < char.toNat ∧ char.toNat < 127 := by
  simp [isPrintable]

/-- A character of a listed class is printable if all listed ones are. -/
theorem isPrintable_of_contains {class' : List Char} (printable : class'.all isPrintable = true)
    (listed : class'.contains char = true) : isPrintable char = true :=
  all_eq_true.mp printable char (by simpa using listed)

/-- Letters are printable. -/
theorem isPrintable_of_isAlpha (alpha : isAlpha char = true) :
    isPrintable char = true := by
  rw [isPrintable_iff]
  simp only [isAlpha, Bool.or_eq_true, Bool.and_eq_true, decide_eq_true_eq, Char.le_def,
    UInt32.le_iff_toNat_le] at alpha
  show 32 < char.val.toNat ∧ char.val.toNat < 127
  simp only [Char.reduceVal, UInt32.reduceToNat] at alpha
  omega

/-- Hexadecimal digits are printable. -/
theorem isPrintable_of_isHexDigit (digit : isHexDigit char = true) :
    isPrintable char = true := by
  rw [isPrintable_iff]
  simp only [isHexDigit, isDigit, Bool.or_eq_true, Bool.and_eq_true, decide_eq_true_eq, Char.le_def,
    UInt32.le_iff_toNat_le] at digit
  show 32 < char.val.toNat ∧ char.val.toNat < 127
  simp only [Char.reduceVal, UInt32.reduceToNat] at digit
  omega

/-- A digit is a hexadecimal one. -/
theorem isHexDigit_of_isDigit (digit : isDigit char = true) : isHexDigit char = true := by
  simp [isHexDigit, digit]

/-- Digits are printable. -/
theorem isPrintable_of_isDigit (digit : isDigit char = true) : isPrintable char = true :=
  isPrintable_of_isHexDigit (isHexDigit_of_isDigit digit)

/-- Characters of names are printable. -/
theorem isPrintable_of_isRegNameChar (allowed : isRegNameChar char = true) :
    isPrintable char = true := by
  simp only [isRegNameChar, isUnreserved, isSubDelim, Bool.or_eq_true] at allowed
  rcases allowed with ((alpha | digit) | mark) | delimiter
  · exact isPrintable_of_isAlpha alpha
  · exact isPrintable_of_isDigit digit
  · exact isPrintable_of_contains (by decide) mark
  · exact isPrintable_of_contains (by decide) delimiter

/-- Characters of paths are printable. -/
theorem isPrintable_of_isPathChar (allowed : isPathChar char = true) :
    isPrintable char = true := by
  simp only [isPathChar, Bool.or_eq_true] at allowed
  rcases allowed with allowed | delimiter
  · exact isPrintable_of_isRegNameChar allowed
  · exact isPrintable_of_contains (by decide) delimiter

/-- Characters of queries are printable. -/
theorem isPrintable_of_isQueryChar (allowed : isQueryChar char = true) :
    isPrintable char = true := by
  simp only [isQueryChar, Bool.or_eq_true, decide_eq_true_eq] at allowed
  rcases allowed with allowed | rfl
  · exact isPrintable_of_isPathChar allowed
  · decide

/-- Characters of tokens are printable. -/
theorem isPrintable_of_isTokenChar (allowed : isTokenChar char = true) :
    isPrintable char = true := by
  simp only [isTokenChar, Bool.or_eq_true] at allowed
  rcases allowed with (alpha | digit) | mark
  · exact isPrintable_of_isAlpha alpha
  · exact isPrintable_of_isDigit digit
  · exact isPrintable_of_contains (by decide) mark

/-- Escaped text consists of the class, percent signs and hexadecimal digits. -/
theorem mem_of_isEscaped (escaped : isEscaped allowed text = true) (among : char ∈ text) :
    allowed char = true ∨ char = '%' ∨ isHexDigit char = true := by
  induction text using isEscaped.induct with
  | case1 => cases among
  | case2 high low rest ih =>
    simp only [isEscaped, Bool.and_eq_true] at escaped
    -- An escape is a percent sign and two digits.
    simp only [mem_cons] at among
    rcases among with rfl | rfl | rfl | among
    · exact .inr (.inl rfl)
    · exact .inr (.inr escaped.1.1)
    · exact .inr (.inr escaped.1.2)
    · exact ih escaped.2 among
  | case3 first rest noEscape ih =>
    rw [isEscaped] at escaped
    · simp only [Bool.and_eq_true] at escaped
      rcases mem_cons.mp among with rfl | among
      · exact .inl escaped.1
      · exact ih escaped.2 among
    · exact noEscape

/-- Escaped text is printable if its class is. -/
theorem isPrintable_of_isEscaped (printable : ∀ char, allowed char = true → isPrintable char = true)
    (escaped : isEscaped allowed text = true) : text.all isPrintable = true := by
  rw [all_eq_true]
  intro char among
  rcases mem_of_isEscaped escaped among with known | rfl | digit
  · exact printable char known
  · decide
  · exact isPrintable_of_isHexDigit digit

/-! ### Cutting text in two -/

/-- Partitioning is cutting at the first separator. -/
theorem partition_eq_cut (separator : Char) (text : Text) :
    partition separator text = cut separator text := by
  unfold partition cut
  cases text.dropWhile (· ≠ separator) <;> rfl

/-- A text ends before the first separator. -/
theorem partition_append {separator : Char} {before after : Text} (absent : separator ∉ before) :
    partition separator (before ++ separator :: after) = (before, some after) := by
  rw [partition_eq_cut]
  exact cut_eq_some.mpr ⟨rfl, absent⟩

/-- Without a separator there is only one part. -/
theorem partition_of_not_mem {separator : Char} (absent : separator ∉ text) :
    partition separator text = (text, none) := by
  rw [partition_eq_cut]
  exact cut_eq_none.mpr ⟨rfl, absent⟩

/-- A text without colons ends before its port. -/
theorem partition_portSuffix (absent : ':' ∉ text) (port : Option Text) :
    partition ':' (text ++ portSuffix port) = (text, port) := by
  cases port with
  | none => simpa [portSuffix] using partition_of_not_mem absent
  | some digits => exact partition_append absent

/-- What holds of both parts holds of the whole. -/
theorem all_of_partition {separator : Char} {keep : Char → Bool} (kept : keep separator = true)
    {before : Text} {after : Option Text} (cutting : partition separator text = (before, after))
    (front : before.all keep = true) (back : (after.getD []).all keep = true) :
    text.all keep = true := by
  rw [partition_eq_cut] at cutting
  cases after with
  | none =>
    obtain ⟨rfl, -⟩ := cut_eq_none.mp cutting
    exact front
  | some after =>
    obtain ⟨rfl, -⟩ := cut_eq_some.mp cutting
    simp only [Option.getD_some] at back
    simp [all_append, front, kept, back]

/-! ### Authorities and targets -/

/-- An authority is valid if its host is, and the port as far as it has one. -/
theorem validateAuthority_eq_ok :
    validateAuthority ipv6Compressed authority connect = .ok host ↔
      ∃ port, splitAuthority ipv6Compressed authority = .ok (host, port) ∧
        ¬ (connect = true ∧ (host = [] ∨ port.getD [] = [])) ∧
        ∀ text ∈ port, validatePort connect text = .ok () := by
  unfold validateAuthority
  cases split : splitAuthority ipv6Compressed authority with
  | error message => simp [bind, Except.bind]
  | ok parts =>
    obtain ⟨found, port⟩ := parts
    simp only [bind, Except.bind, Except.ok.injEq, Prod.mk.injEq]
    -- The three checks come one after another.
    by_cases missing : connect = true ∧ (found = [] ∨ port.getD [] = [])
    · rw [if_pos missing]
      refine ⟨(by intros; contradiction), ?_⟩
      rintro ⟨_, ⟨rfl, rfl⟩, present, -⟩
      exact absurd missing present
    · rw [if_neg missing]
      cases port with
      | none =>
        simp only [pure, Except.pure, Except.ok.injEq]
        constructor
        · rintro rfl
          exact ⟨none, ⟨rfl, rfl⟩, missing, by intros; contradiction⟩
        · rintro ⟨_, ⟨same, -⟩, -⟩
          exact same
      | some text =>
        simp only
        cases checked : validatePort connect text with
        | error message =>
          refine ⟨fun same => (by cases same), ?_⟩
          rintro ⟨_, ⟨rfl, rfl⟩, -, passed⟩
          cases checked.symm.trans (passed text rfl)
        | ok value =>
          simp only [pure, Except.pure, Except.ok.injEq]
          constructor
          · rintro rfl
            exact ⟨some text, ⟨rfl, rfl⟩, missing, fun _ same => Option.some.inj same ▸ checked⟩
          · rintro ⟨_, ⟨same, -⟩, -⟩
            exact same

/-- Numbers are printable. -/
theorem printable_of_isDigits (digits : text.all isDigit = true) :
    text.all isPrintable = true := by
  rw [all_eq_true] at digits ⊢
  exact fun char among => isPrintable_of_isDigit (digits char among)

/-- The letters beyond ASCII are beyond Latin-1 as well. -/
theorem not_foldsToLetter (latin : char.toNat < 256) : foldsToLetter char = false := by
  by_contra folds
  rw [Bool.not_eq_false] at folds
  have listed : char ∈ "\u0130\u0131\u017F\u212A".toList := contains_iff_mem.mp folds
  have beyond : "\u0130\u0131\u017F\u212A".toList.all (fun other => 256 ≤ other.toNat) = true := by
    decide
  have large : 256 ≤ char.toNat := by simpa using all_eq_true.mp beyond char listed
  omega

/-- A character whose lower-case form is `v` is one of two letters. -/
theorem isPrintable_of_mark (letter : lowerChar char = 'v') :
    isPrintable char = true := by
  unfold lowerChar at letter
  rw [isPrintable_iff]
  split at letter
  · rename_i upper
    have value := congrArg Char.toNat letter
    have small : char.toNat + 0x20 < 0xD800 := by omega
    rw [Char.ofNat, dif_pos (.inl small)] at value
    have same : char.toNat + 0x20 = 118 := value
    omega
  · subst letter
    decide

/-- The characters of a future address, as its pattern matches them. -/
def isFutureChar (char : Char) : Bool :=
  isRegNameChar char || isHexDigit char || char = ':' || lowerChar char = 'v' || foldsToLetter char

/-- The characters of a future address are listed in its format. -/
theorem mem_of_isIpvFuture (future : isIpvFuture host = true) (among : char ∈ host) :
    isFutureChar char = true := by
  cases host with
  | nil => cases among
  | cons first rest =>
    have parts := takeWhile_append_dropWhile (p := isHexDigit) (l := rest)
    rw [isIpvFuture] at future
    split at future
    · rename_i tail behind
      simp only [Bool.and_eq_true, decide_eq_true_eq] at future
      obtain ⟨⟨⟨letter, -⟩, -⟩, tail'⟩ := future
      rw [behind] at parts
      rw [← parts, mem_cons, mem_append, mem_cons] at among
      rcases among with rfl | version | rfl | address
      · simp [isFutureChar, letter]
      · simp [isFutureChar, mem_takeWhile_imp version]
      · decide
      · have known := all_eq_true.mp tail' char address
        simp only [Bool.or_eq_true, decide_eq_true_eq] at known
        rcases known with (known | known) | known <;> simp [isFutureChar, known]
    · cases future

/-- A name holds neither brackets nor colons. -/
theorem plain_of_isRegName (named : isRegName host = true) : '[' ∉ host ∧ ':' ∉ host :=
  ⟨fun among => absurd (mem_of_isEscaped named among) (by decide),
    fun among => absurd (mem_of_isEscaped named among) (by decide)⟩

/-- What is accepted between brackets: a future address, or an IPv6 address without a zone. -/
def IsLiteral (ipv6Compressed : Text → Option Text) (host : Text) : Prop :=
  isIpvFuture host = true ∨ '%' ∉ host ∧ (ipv6Compressed host).isSome = true

/-- A literal is split off what follows its brackets. -/
theorem splitAuthority_bracketed (absent : ']' ∉ host) (literal : IsLiteral ipv6Compressed host)
    (port : Option Text) :
    splitAuthority ipv6Compressed ('[' :: (host ++ ']' :: portSuffix port)) = .ok (host, port) := by
  have known : isIpvFuture host ∨ (¬ host.contains '%' ∧ (ipv6Compressed host).isSome) := by
    simpa [IsLiteral] using literal
  have marked : ¬ (portSuffix port ≠ [] ∧ (portSuffix port).head? ≠ some ':') := by
    cases port <;> simp [portSuffix]
  rw [splitAuthority, partition_append absent]
  dsimp only
  rw [if_neg marked, if_pos known]
  cases port <;> rfl

/-- A name is split off its port, since it has neither brackets nor colons. -/
theorem splitAuthority_named (named : isRegName host = true) (port : Option Text) :
    splitAuthority ipv6Compressed (host ++ portSuffix port) = .ok (host, port) := by
  obtain ⟨bracket, colon⟩ := plain_of_isRegName named
  unfold splitAuthority
  split
  · rename_i literal begins
    exfalso
    cases host with
    | nil => cases port <;> simp [portSuffix] at begins
    | cons first rest =>
      have same : first = '[' := by simpa using congrArg List.head? begins
      exact bracket (by simp [same])
  · rw [partition_portSuffix colon]
    exact if_pos named

/-- An authority is a literal in brackets or a name, with a port behind it or not. -/
theorem splitAuthority_eq_ok :
    splitAuthority ipv6Compressed authority = .ok (host, port) ↔
      (authority = '[' :: (host ++ ']' :: portSuffix port) ∧ ']' ∉ host ∧
        IsLiteral ipv6Compressed host) ∨
      (authority = host ++ portSuffix port ∧ isRegName host = true) := by
  constructor
  · intro split
    unfold splitAuthority at split
    split at split
    · -- In brackets, the host ends at the first closing one.
      rename_i literal
      rw [partition_eq_cut] at split
      split at split
      · cases split
      rename_i inner suffix cutting
      obtain ⟨rfl, absent⟩ := cut_eq_some.mp cutting
      split at split
      · cases split
      rename_i suffixed
      split at split
      · rename_i known
        obtain ⟨rfl, rfl⟩ := Prod.mk.inj (Except.ok.inj split)
        refine .inl ⟨?_, absent, by simpa [IsLiteral] using known⟩
        -- Behind the bracket there is nothing, or a colon and the port.
        cases suffix with
        | nil => rfl
        | cons colon text =>
          have same : colon = ':' := by
            by_contra other
            exact suffixed ⟨cons_ne_nil _ _, by simpa using other⟩
          rw [same]
          rfl
      · cases split
    · rw [partition_eq_cut] at split
      split at split
      rename_i front back cutting
      split at split
      · rename_i named
        obtain ⟨rfl, rfl⟩ := Prod.mk.inj (Except.ok.inj split)
        refine .inr ⟨?_, named⟩
        cases back with
        | none => simpa [portSuffix] using (cut_eq_none.mp cutting).1.symm
        | some text => exact (cut_eq_some.mp cutting).1
      · cases split
  · rintro (⟨rfl, absent, literal⟩ | ⟨rfl, named⟩)
    · exact splitAuthority_bracketed absent literal port
    · exact splitAuthority_named named port

/-- The characters that a host can consist of. -/
theorem mem_host (documented : library.Documented)
    (split : splitAuthority library.ipv6Compressed authority = .ok (host, port))
    (among : char ∈ host) : (isFutureChar char || char = '%') = true := by
  rcases splitAuthority_eq_ok.mp split with ⟨-, -, future | ⟨unscoped, address⟩⟩ | ⟨-, named⟩
  · simp [mem_of_isIpvFuture future among]
  · rcases documented.ipv6 host unscoped address char among with digit | rfl | rfl
    · simp [isFutureChar, digit]
    · decide
    · decide
  · rcases mem_of_isEscaped named among with known | known | known <;> simp [isFutureChar, known]

/-- An authority is printable if its port is. -/
theorem printable_of_splitAuthority (documented : library.Documented) (latin : IsLatin1 authority)
    (split : splitAuthority library.ipv6Compressed authority = .ok (host, port)) :
    host.all isPrintable = true ∧
      ((port.getD []).all isPrintable = true → authority.all isPrintable = true) := by
  have inside : ∀ char ∈ host, char ∈ authority := by
    intro char among
    rcases splitAuthority_eq_ok.mp split with ⟨rfl, -⟩ | ⟨rfl, -⟩
    · simp [among]
    · simp [among]
  have printable : host.all isPrintable = true := by
    rw [all_eq_true]
    intro char among
    have known := mem_host documented split among
    simp only [isFutureChar, Bool.or_eq_true, decide_eq_true_eq] at known
    rcases known with ((((plain | digit) | rfl) | letter) | folds) | rfl
    · exact isPrintable_of_isRegNameChar plain
    · exact isPrintable_of_isHexDigit digit
    · decide
    · exact isPrintable_of_mark letter
    · rw [not_foldsToLetter (latin char (inside char among))] at folds
      cases folds
    · decide
  refine ⟨printable, fun ported => ?_⟩
  have suffix : (portSuffix port).all isPrintable = true := by
    cases port with
    | none => rfl
    | some text =>
      rw [portSuffix, Option.map_some, Option.getD_some, all_cons, Bool.and_eq_true]
      exact ⟨by decide, ported⟩
  rcases splitAuthority_eq_ok.mp split with ⟨rfl, -⟩ | ⟨rfl, -⟩
  · rw [all_cons, all_append, all_cons, printable, suffix]
    decide
  · rw [all_append, printable, suffix]
    decide

/-- A valid authority consists of printable characters. -/
theorem printable_of_validateAuthority (documented : library.Documented)
    (latin : IsLatin1 authority)
    (valid : validateAuthority library.ipv6Compressed authority connect = .ok host) :
    authority.all isPrintable = true := by
  obtain ⟨port, split, -, checked⟩ := validateAuthority_eq_ok.mp valid
  refine (printable_of_splitAuthority documented latin split).2 ?_
  cases port with
  | none => rfl
  | some text => exact printable_of_isDigits (validatePort_eq_ok.mp (checked text rfl)).1

variable {value : α}

/-- What a mapped success was mapped from. -/
theorem map_eq_ok {ε β : Type} {outcome : Except ε α} {change : α → β} {result : β} :
    outcome.map change = .ok result ↔ ∃ value, outcome = .ok value ∧ change value = result := by
  cases outcome <;> simp [Except.map]

/-- Turning an error into another keeps successes. -/
theorem asValueError_eq_ok {outcome : Except String α} :
    asValueError outcome = .ok value ↔ outcome = .ok value := by
  cases outcome <;> simp [asValueError]

/-- So does turning one into an HTTP error. -/
theorem asHttp1Error_eq_ok {outcome : Except Exn α} :
    asHttp1Error outcome = .ok value ↔ outcome = .ok value := by
  cases outcome with
  | ok value => rfl
  | error raised => cases raised <;> simp [asHttp1Error]

/-- Path and query are escaped, each by its own class. -/
theorem validatePathQuery_eq_ok {path query : Text} :
    validatePathQuery path query = .ok () ↔
      isEscaped isPathChar path = true ∧ isEscaped isQueryChar query = true := by
  unfold validatePathQuery
  split <;> simp_all

/-- The check on the characters of an absolute target leaves printable ones. -/
theorem printable_of_checked
    (checked : ¬ (target.any fun char => char.toNat ≤ 32 || char.toNat ≥ 127) = true) :
    target.all isPrintable = true := by
  rw [all_eq_true]
  intro char among
  rw [any_eq_true, not_exists] at checked
  have range := checked char
  simp only [among, true_and, Bool.or_eq_true, decide_eq_true_eq, not_or] at range
  rw [isPrintable_iff]
  omega

/-- A valid target consists of printable characters. -/
theorem printable_of_validateTarget (documented : library.Documented) {method : Text}
    (latin : IsLatin1 target) (valid : validateTarget library method target = .ok ()) :
    target.all isPrintable = true := by
  unfold validateTarget at valid
  split at valid
  · -- A tunnel is requested to an authority.
    obtain ⟨host, checked, -⟩ := map_eq_ok.mp valid
    exact printable_of_validateAuthority documented latin (asValueError_eq_ok.mp checked)
  · split at valid
    · rename_i asterisk
      subst asterisk
      decide
    · split at valid
      · -- The origin form is a path and a query.
        cases cutting : partition '?' target with
        | mk path query =>
          simp only [cutting, asValueError_eq_ok, validatePathQuery_eq_ok] at valid
          exact all_of_partition (by decide) cutting
            (isPrintable_of_isEscaped (fun _ => isPrintable_of_isPathChar) valid.1)
            (isPrintable_of_isEscaped (fun _ => isPrintable_of_isQueryChar) valid.2)
      · -- The absolute form is checked before it is split.
        unfold validateAbsoluteForm at valid
        split at valid
        · cases valid
        · split at valid
          · cases valid
          · rename_i checked
            exact printable_of_checked checked

end SolveTls
