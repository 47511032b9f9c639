import SolveTls.Http2.Reference
import SolveTls.Proofs.ContentLength
import SolveTls.Routing

/-! Everyone who reads an accepted field list finds the same request in it. -/

namespace SolveTls

variable {κ δ : Type} {packages : Packages κ δ} {headers : List Field}
variable {ε α β : Type} {trailers : Bool} {field : Field} {values : Dict Bytes Bytes}

/-- The names a pseudo-header field may have. -/
def pseudoHeaderNames : List Bytes :=
  [":method", ":scheme", ":authority", ":path", ":status", ":protocol"].map ascii

/-- What h2 does not let pass in the fields of a request. -/
structure Packages.ChecksHeaders (packages : Packages κ δ) : Prop where
  known : ∀ fields, packages.validateHeaders false fields = .ok () →
    ∀ field ∈ fields, field.1.head? = some 0x3A → field.1 ∈ pseudoHeaderNames
  distinct : ∀ fields, packages.validateHeaders false fields = .ok () →
    ∀ name, name.head? = some 0x3A → (fields.map Prod.fst).count name ≤ 1
  lowerCase : ∀ fields, packages.validateHeaders false fields = .ok () →
    ∀ field ∈ fields, ∀ octet ∈ field.1, ¬ (0x41 ≤ octet ∧ octet ≤ 0x5A)

/-! ## What the checks establish -/

variable {value : β}

/-- Both computations of a sequence return. -/
theorem except_bind_eq_ok {first : Except ε α} {next : α → Except ε β} :
    (first >>= next) = .ok value ↔ ∃ middle, first = .ok middle ∧ next middle = .ok value := by
  cases first with
  | error raised => simp [bind, Except.bind]
  | ok middle => simp [bind, Except.bind]

/-- So they do where the first returns nothing. -/
theorem except_then_eq_ok {first : Except ε Unit} {next : Except ε β} :
    (first >>= fun _ => next) = .ok value ↔ first = .ok () ∧ next = .ok value := by
  rw [except_bind_eq_ok]
  exact ⟨fun ⟨(), passed, rest⟩ => ⟨passed, rest⟩, fun ⟨passed, rest⟩ => ⟨(), passed, rest⟩⟩

/-- Successes are no faults. -/
theorem asProtocolFault_eq_ok {outcome : Except String α} {value : α} :
    asProtocolFault outcome = .ok value ↔ outcome = .ok value := by
  cases outcome with
  | error message => simp [asProtocolFault]
  | ok other => simp [asProtocolFault]

/-- Accepted fields pass all four checks. -/
theorem validateFields_eq_ok :
    validateFields packages headers false = .ok () ↔
      validateRawFields headers false = .ok () ∧ validateFieldLists headers = .ok () ∧
      validateRequestTarget packages (Dict.ofItems headers) = .ok () ∧
      packages.validateHeaders false (headersForH2 headers (Dict.ofItems headers) false) =
        .ok () := by
  simp [validateFields, except_then_eq_ok]

/-- Every field is checked on its own. -/
theorem validateRawFields_eq_ok :
    validateRawFields headers trailers = .ok () ↔
      ∀ field ∈ headers, validateRawField trailers field = .ok () := by
  unfold validateRawFields
  induction headers with
  | nil => simp [pure, Except.pure]
  | cons field rest ih =>
    have step : (field :: rest).forM (validateRawField trailers) =
      (validateRawField trailers field >>= fun _ => rest.forM (validateRawField trailers)) := rfl
    rw [step, except_then_eq_ok, ih, List.forall_mem_cons]

/-- What the raw checks leave of a field. -/
structure CleanField (field : Field) : Prop where
  octets : ∀ octet ∈ field.2, octet ≠ 0 ∧ octet ≠ 10 ∧ octet ≠ 13
  front : ∀ octet, field.2.head? = some octet → isBlankOctet octet = false
  back : ∀ octet, field.2.getLast? = some octet → isBlankOctet octet = false
  named : field.1.head? = some 0x3A ∨ isToken field.1 = true
  numeric : field.1 = ascii "content-length" → isDigits field.2 = true

/-- A field that passes is clean. -/
theorem cleanField_of_validateRawField (valid : validateRawField trailers field = .ok ()) :
    CleanField field := by
  obtain ⟨name, value⟩ := field
  simp only [validateRawField] at valid
  split at valid
  · cases valid
  rename_i clean
  split at valid
  · cases valid
  rename_i named
  split at valid
  · cases valid
  rename_i numeric
  simp only [not_or, List.any_eq_true, Bool.or_eq_true, decide_eq_true_eq, not_exists,
    not_and] at clean
  constructor
  · intro octet among
    have other := clean.1 octet among
    tauto
  · intro octet first
    simpa [show value.head? = some octet from first] using clean.2.1
  · intro octet last
    simpa [show value.getLast? = some octet from last] using clean.2.2
  · show name.head? = some 0x3A ∨ isToken name = true
    tauto
  · intro same
    have : ¬ (¬ isDigits value = true) := fun bad => numeric ⟨same, .inr (.inl bad)⟩
    exact not_not.mp this

/-- What the checks on lists of values establish. -/
structure AgreedLists (headers : List Field) : Prop where
  lengths : ∀ first ∈ fieldValues headers (ascii "content-length"),
    ∀ second ∈ fieldValues headers (ascii "content-length"), stripZeros first = stripZeros second
  host : (fieldValues headers (ascii "host")).length ≤ 1
  transferOptions : ∃ members, parseHttpList (fieldValues headers (ascii "te")) = .ok members ∧
    ∀ member ∈ members, lower member = "trailers".toList

/-- Lists that pass agree. -/
theorem agreedLists_of_validateFieldLists (valid : validateFieldLists headers = .ok ()) :
    AgreedLists headers := by
  simp only [validateFieldLists] at valid
  split at valid
  · cases valid
  rename_i lengths
  split at valid
  · cases valid
  rename_i host
  obtain ⟨members, parsed, checked⟩ := except_bind_eq_ok.mp valid
  split at checked
  · cases checked
  rename_i trailers
  constructor
  · intro first among second among'
    by_contra differs
    exact lengths ((any_ne_head_iff stripZeros _ []).mpr ⟨first, among, second, among', differs⟩)
  · omega
  · refine ⟨members, asProtocolFault_eq_ok.mp parsed, ?_⟩
    intro member among
    by_contra differs
    exact trailers (List.any_eq_true.mpr ⟨member, among, decide_eq_true differs⟩)

/-- The authority is checked as that of a CONNECT request exactly for the method of that name. -/
theorem validateRequestAuthority_of_target
    (valid : validateRequestTarget packages values = .ok ()) :
    validateRequestAuthority packages values
      (decide ((values.get? (ascii ":method")).getD [] = ascii "CONNECT"))
      ((values.get? (ascii ":scheme")).getD []) = .ok () := by
  simp only [validateRequestTarget] at valid
  split at valid
  · cases valid
  split at valid
  · cases valid
  split at valid
  · rename_i method
    rw [decide_eq_false method]
    exact (except_then_eq_ok.mp valid).2
  · rename_i method
    rw [decide_eq_true (not_not.mp method)]
    split at valid
    · cases valid
    · exact valid

/-- Two authorities in one request have one normal form. -/
theorem normalizeAuthority_agrees {connect : Bool} {scheme authority host : Bytes}
    (valid : validateRequestAuthority packages values connect scheme = .ok ())
    (first : values.get? (ascii ":authority") = some authority)
    (second : values.get? (ascii "host") = some host) :
    ∃ normalized,
      normalizeAuthority packages.ipv6Compressed (asText authority) (asText scheme) connect =
        .ok normalized ∧
      normalizeAuthority packages.ipv6Compressed (asText host) (asText scheme) connect =
        .ok normalized := by
  simp only [validateRequestAuthority, first, second, Option.getD_some] at valid
  obtain ⟨_, -, valid⟩ := except_bind_eq_ok.mp valid
  obtain ⟨normalized, normal, valid⟩ := except_bind_eq_ok.mp valid
  obtain ⟨other, normal', valid⟩ := except_bind_eq_ok.mp valid
  by_cases same : normalized = other
  · subst same
    exact ⟨normalized, asProtocolFault_eq_ok.mp normal, asProtocolFault_eq_ok.mp normal'⟩
  · rw [if_pos same] at valid
    cases valid

/-- Accepted fields are clean. -/
theorem validateFields_clean (valid : validateFields packages headers false = .ok ()) :
    ∀ field ∈ headers, CleanField field := by
  intro field among
  have raw := (validateFields_eq_ok.mp valid).1
  exact cleanField_of_validateRawField (validateRawFields_eq_ok.mp raw field among)

/-- The lists of accepted fields agree. -/
theorem validateFields_lists (valid : validateFields packages headers false = .ok ()) :
    AgreedLists headers :=
  agreedLists_of_validateFieldLists (validateFields_eq_ok.mp valid).2.1

/-- Lengths were compared without leading zeros, which is to compare numbers. -/
theorem validateFields_lengths (valid : validateFields packages headers false = .ok ())
    {first second : Bytes} (among : first ∈ fieldValues headers (ascii "content-length"))
    (among' : second ∈ fieldValues headers (ascii "content-length")) :
    isDigits first = true ∧ decimalValue first = decimalValue second := by
  have numeric : ∀ value ∈ fieldValues headers (ascii "content-length"),
      isDigits value = true := by
    intro value among
    obtain ⟨field, filtered, rfl⟩ := List.mem_map.mp among
    obtain ⟨inside, named⟩ := List.mem_filter.mp filtered
    exact (validateFields_clean valid field inside).numeric (of_decide_eq_true named)
  have same := (validateFields_lists valid).lengths first among second among'
  exact ⟨numeric first among, (stripZeros_inj (numeric _ among) (numeric _ among')).mp same⟩

/-! ## The copy for h2 -/

/-- A field is adapted in its value only, and only if it is one of two. -/
def Adapted (original field : Field) : Prop :=
  field.1 = original.1 ∧
    (original.1 ≠ ascii "te" → original.1 ≠ ascii "host" → field.2 = original.2)

/-- The fields are adapted one by one. -/
theorem headersForH2_adapted (headers : List Field) (values : Dict Bytes Bytes) (trailers : Bool) :
    List.Forall₂ Adapted headers (headersForH2 headers values trailers) := by
  unfold headersForH2
  rw [List.forall₂_map_right_iff, List.forall₂_same]
  intro field _
  obtain ⟨name, value⟩ := field
  show Adapted (name, value) (if name = ascii "te" then _ else _)
  by_cases option : name = ascii "te"
  · rw [if_pos option]
    exact ⟨rfl, fun other => absurd option other⟩
  rw [if_neg option]
  cases values.get? (ascii ":authority") with
  | none => exact ⟨rfl, fun _ _ => rfl⟩
  | some authority =>
    show Adapted (name, value) (if name = ascii "host" ∧ ¬ trailers then _ else _)
    split
    · rename_i hosted
      exact ⟨rfl, fun _ other => absurd hosted.1 other⟩
    · exact ⟨rfl, fun _ _ => rfl⟩

/-- Adapting keeps the names. -/
theorem Adapted.names {adapted : List Field} (same : List.Forall₂ Adapted headers adapted) :
    adapted.map Prod.fst = headers.map Prod.fst := by
  induction same with
  | nil => rfl
  | cons here _ ih => rw [List.map_cons, List.map_cons, here.1, ih]

/-! ## Looking a field up -/

/-- Tokens are made of ASCII. -/
theorem isTokenOctet_small {octet : UInt8} (token : isTokenOctet octet = true) :
    octet.toNat < 0x80 := by
  have printable : isPrintable (Char.ofNat octet.toNat) = true := by
    simp only [isTokenOctet, Bool.or_eq_true] at token
    obtain (alpha | digit) | mark := token
    · exact isPrintable_of_isAlpha alpha
    · exact isPrintable_of_isDigit digit
    · exact isPrintable_of_contains (by decide) mark
  have range := isPrintable_iff.mp printable
  rw [toNat_ofNat_octet] at range
  omega

/-- ASCII octets without upper-case letters are their own lower-case form. -/
theorem lower_asText {octets : Bytes}
    (plain : ∀ octet ∈ octets, octet.toNat < 0x80 ∧ ¬ (0x41 ≤ octet ∧ octet ≤ 0x5A)) :
    lower (asText octets) = asText octets := by
  unfold lower asText
  rw [List.map_map]
  apply List.map_congr_left
  intro octet among
  obtain ⟨small, letter⟩ := plain octet among
  rw [UInt8.le_iff_toNat_le, UInt8.le_iff_toNat_le] at letter
  rw [Function.comp_apply, lowerChar, toNat_ofNat_octet]
  apply if_neg
  intro upper
  obtain upper | latin := upper
  · exact letter upper
  · omega

/-- The names of a field list that both checkers let pass. -/
theorem lower_name (checks : packages.ChecksHeaders) (clean : ∀ field ∈ headers, CleanField field)
    (passed : packages.validateHeaders false
      (headersForH2 headers (Dict.ofItems headers) false) = .ok ()) (among : field ∈ headers) :
    lower (asText field.1) = asText field.1 := by
  -- h2 sees the same name, on a field of its own copy.
  have named : field.1 ∈ (headersForH2 headers (Dict.ofItems headers) false).map Prod.fst := by
    rw [Adapted.names (headersForH2_adapted ..)]
    exact List.mem_map_of_mem among
  obtain ⟨copy, copied, same⟩ := List.mem_map.mp named
  have letters := checks.lowerCase _ passed copy copied
  rw [same] at letters
  apply lower_asText
  intro octet inside
  refine ⟨?_, letters octet inside⟩
  obtain pseudo | token := (clean field among).named
  · -- A pseudo-header is one of six, all of them ASCII.
    have known := checks.known _ passed copy copied (by rw [same]; exact pseudo)
    rw [same] at known
    have small : pseudoHeaderNames.all (fun name => name.all fun octet => octet.toNat < 0x80) =
      true := by decide
    exact of_decide_eq_true (List.all_eq_true.mp (List.all_eq_true.mp small _ known) octet inside)
  · simp only [isToken, Bool.and_eq_true] at token
    exact isTokenOctet_small (List.all_eq_true.mp token.2 octet inside)

/-- In a list of at most one member the first is the last. -/
theorem head?_eq_getLast? {members : List α} (single : members.length ≤ 1) :
    members.head? = members.getLast? := by
  match members, single with
  | [], _ => rfl
  | [_], _ => rfl

/-- With one field of a name, the first match and the last one in a dictionary are the same. -/
theorem header_eq_get? (lowered : ∀ field ∈ headers, lower (asText field.1) = asText field.1)
    {name : String} (literal : asText (ascii name) = name.toList)
    (single : (fieldValues headers (ascii name)).length ≤ 1) :
    header (some (textFields headers)) name =
      ((Dict.ofItems headers).get? (ascii name)).map asText := by
  have found : (headers.find? fun field => lower (asText field.1) = name.toList) =
      (headers.filter fun field => field.1 = ascii name).head? := by
    rw [← List.head?_filter]
    congr 1
    apply List.filter_congr
    intro field among
    rw [lowered field among, ← literal, decide_eq_decide]
    exact ⟨asText_injective, congrArg asText⟩
  calc header (some (textFields headers)) name
      = ((headers.find? fun field => lower (asText field.1) = name.toList).map
          Prod.snd).map asText := by
        simp only [header, textFields, Option.getD_some, List.find?_map, Option.map_map]
        rfl
    _ = (fieldValues headers (ascii name)).head?.map asText := by
        rw [found, fieldValues, List.head?_map]
    _ = ((Dict.ofItems headers).get? (ascii name)).map asText := by
        rw [head?_eq_getLast? single, Dict.get?_ofItems, Dict.last?_eq_getLast?]
        rfl

/-- There is one value for each field of the name. -/
theorem length_fieldValues (name : Bytes) :
    (fieldValues headers name).length = (headers.map Prod.fst).count name := by
  rw [fieldValues, List.length_map, ← List.countP_eq_length_filter, List.count, List.countP_map]
  congr 1
  funext field
  rw [Function.comp_apply, beq_eq_decide]

/-- Of each name that the request is looked up by there is at most one field. -/
theorem single_field (checks : packages.ChecksHeaders) (lists : AgreedLists headers)
    (passed : packages.validateHeaders false
      (headersForH2 headers (Dict.ofItems headers) false) = .ok ()) {name : Bytes}
    (wanted : name.head? = some 0x3A ∨ name = ascii "host") :
    (fieldValues headers name).length ≤ 1 := by
  obtain pseudo | host := wanted
  · -- h2 counts the pseudo-headers on its copy, which has the same names.
    have names := Adapted.names (headersForH2_adapted headers (Dict.ofItems headers) false)
    rw [length_fieldValues, ← names]
    exact checks.distinct _ passed name pseudo
  · rw [host]
    exact lists.host

/-! ## One request for everyone -/

/--
Reporting, routing, validation, the session and h2 read the same request from accepted fields.

The report takes the first field of a name in any case, the session the last one in a dictionary.
-/
theorem validateFields_agrees (checks : packages.ChecksHeaders) (headers : List Field)
    (valid : validateFields packages headers false = .ok ()) :
    (∀ name ∈ [":method", ":path", ":scheme", ":authority", "host"],
      header (some (textFields headers)) name =
        ((Dict.ofItems headers).get? (ascii name)).map asText) ∧
    (∃ length, ∀ value ∈ fieldValues headers (ascii "content-length"),
      isDigits value = true ∧ decimalValue value = length) ∧
    (∀ field ∈ headers, (∀ octet ∈ field.2, octet ≠ 0 ∧ octet ≠ 10 ∧ octet ≠ 13) ∧
      ∀ octet, field.2.head? = some octet ∨ field.2.getLast? = some octet →
        octet ≠ 0x20 ∧ octet ≠ 0x09) ∧
    (∀ authority host, (Dict.ofItems headers).get? (ascii ":authority") = some authority →
      (Dict.ofItems headers).get? (ascii "host") = some host →
      ∀ scheme connect, scheme = ((Dict.ofItems headers).get? (ascii ":scheme")).getD [] →
        connect = decide (((Dict.ofItems headers).get? (ascii ":method")).getD [] =
          ascii "CONNECT") →
      ∃ normalized,
        normalizeAuthority packages.ipv6Compressed (asText authority) (asText scheme) connect =
          .ok normalized ∧
        normalizeAuthority packages.ipv6Compressed (asText host) (asText scheme) connect =
          .ok normalized) ∧
    (∃ members, parseHttpList (fieldValues headers (ascii "te")) = .ok members ∧
      ∀ member ∈ members, lower member = "trailers".toList) ∧
    List.Forall₂ Adapted headers (headersForH2 headers (Dict.ofItems headers) false) := by
  obtain ⟨-, -, target, passed⟩ := validateFields_eq_ok.mp valid
  have clean := validateFields_clean valid
  have lists := validateFields_lists valid
  refine ⟨?_, ?_, ?_, ?_, lists.transferOptions, headersForH2_adapted ..⟩
  · -- Names are in lower case already, and occur once.
    intro name wanted
    have literals : [":method", ":path", ":scheme", ":authority", "host"].all (fun name =>
        decide (asText (ascii name) = name.toList) &&
          ((ascii name).head? = some 0x3A || ascii name = ascii "host")) = true := by decide
    have literal := List.all_eq_true.mp literals name wanted
    simp only [Bool.and_eq_true, Bool.or_eq_true, decide_eq_true_eq] at literal
    apply header_eq_get? (fun field => lower_name checks clean passed) literal.1
    exact single_field checks lists passed literal.2
  · -- If there is any length, all of them are the first one.
    refine ⟨decimalValue ((fieldValues headers (ascii "content-length")).headD []), ?_⟩
    intro value among
    apply validateFields_lengths valid among
    cases values : fieldValues headers (ascii "content-length") with
    | nil => simp [values] at among
    | cons head rest => simp
  · intro field among
    refine ⟨(clean field among).octets, ?_⟩
    intro octet outer
    have blank : isBlankOctet octet = false :=
      outer.elim ((clean field among).front octet) ((clean field among).back octet)
    simpa [isBlankOctet] using blank
  · intro authority host first second scheme connect rfl rfl
    exact normalizeAuthority_agrees (validateRequestAuthority_of_target target) first second

/-- A checker that lets pass what the law allows, and nothing else. -/
def checkHeaders (fields : List Field) : Except Exn Unit :=
  let names := fields.map Prod.fst
  let pseudo := names.filter fun name => name.head? = some 0x3A
  if pseudo.all pseudoHeaderNames.contains && decide pseudo.Nodup &&
      names.all (fun name => name.all fun octet => !(0x41 ≤ octet && octet ≤ 0x5A)) then .ok ()
  else .error (protocolFault "Received invalid header")

/-- The reference packages, with that checker. -/
def checkingPackages : Packages Reference.Core Unit :=
  { referencePackages with validateHeaders := fun _ fields => checkHeaders fields }

/-- It checks headers as the law says. -/
theorem checkingPackages_checks : checkingPackages.ChecksHeaders := by
  have passes {fields : List Field}
      (passed : checkingPackages.validateHeaders false fields = .ok ()) :
      (∀ name ∈ (fields.map Prod.fst).filter fun name => name.head? = some 0x3A,
        name ∈ pseudoHeaderNames) ∧
      ((fields.map Prod.fst).filter fun name => name.head? = some 0x3A).Nodup ∧
      ∀ name ∈ fields.map Prod.fst, ∀ octet ∈ name, ¬ (0x41 ≤ octet ∧ octet ≤ 0x5A) := by
    simp only [checkingPackages, checkHeaders] at passed
    split at passed
    · rename_i allowed
      simpa only [Bool.and_eq_true, List.all_eq_true, List.contains_iff_mem, decide_eq_true_eq,
        Bool.not_eq_true', ← Bool.not_eq_true, and_assoc] using allowed
    · cases passed
  constructor
  · intro fields passed field among pseudo
    apply (passes passed).1
    exact List.mem_filter.mpr ⟨List.mem_map_of_mem among, decide_eq_true pseudo⟩
  · intro fields passed name pseudo
    rw [← List.count_filter (p := fun name => name.head? = some 0x3A) (decide_eq_true pseudo)]
    exact List.nodup_iff_count_le_one.mp (passes passed).2.1 name
  · intro fields passed field among
    exact (passes passed).2.2 field.1 (List.mem_map_of_mem among)

/-- A request whose authority is spelled in two ways, and its length as well. -/
def twiceSpelled : List Field := [
  (ascii ":method", ascii "POST"),
  (ascii ":scheme", ascii "https"),
  (ascii ":authority", ascii "A:443"),
  (ascii ":path", ascii "/?q"),
  (ascii "content-length", ascii "7"),
  (ascii "host", ascii "a"),
  (ascii "te", ascii "Trailers"),
  (ascii "content-length", ascii "007")]

/-- Two spellings of one host are accepted. -/
theorem validateFields_agrees_twiceSpelled :
    validateFields checkingPackages twiceSpelled false = .ok () ∧
      header (some (textFields twiceSpelled)) "host" =
        ((Dict.ofItems twiceSpelled).get? (ascii "host")).map asText := by
  have valid : validateFields checkingPackages twiceSpelled false = .ok () := by decide +kernel
  exact ⟨valid, (validateFields_agrees checkingPackages_checks twiceSpelled valid).1 "host"
    (by decide)⟩

end SolveTls
