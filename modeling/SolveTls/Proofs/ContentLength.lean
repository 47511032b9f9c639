import SolveTls.Http2.Adapter
import SolveTls.Http2.Validation
import SolveTls.Proofs.Http1.Framing

/-! Both protocols compare the lengths that requests declare as integers, without converting them. -/

namespace SolveTls

open List LengthMember

variable {value other : Bytes}
variable {headers : List Field}

/-! ### Octets and characters -/

theorem isDigit_ofOctet (octet : UInt8) :
    isDigit (Char.ofNat octet.toNat) = true ↔ 0x30 ≤ octet ∧ octet ≤ 0x39 := by
  rw [isDigit_iff, toNat_ofNat_octet, UInt8.le_iff_toNat_le, UInt8.le_iff_toNat_le]
  rfl

/-- Digits are digits, as octets and as characters. -/
theorem isDigits_iff :
    isDigits value = true ↔ value ≠ [] ∧ (asText value).all isDigit = true := by
  have same : (asText value).all isDigit =
      value.all fun octet => 0x30 ≤ octet && octet ≤ 0x39 := by
    rw [asText, all_map]
    congr 1
    funext octet
    rw [Bool.eq_iff_iff, Function.comp_apply, isDigit_ofOctet]
    simp
  rw [isDigits, Bool.and_eq_true, same]
  simp

theorem decimalValue_eq (value : Bytes) : decimalValue value = textValue (asText value) := by
  -- The fold over the octets reads each of them as the character it stands for.
  rw [decimalValue, textValue, asText, foldl_map]
  congr 1
  funext high digit
  rw [toNat_ofNat_octet]
  rfl

/-- Zeros are stripped from the octets as they are from the characters. -/
theorem asText_stripZeros (value : Bytes) :
    asText (stripZeros value) = (asText value).dropWhile (· = '0') := by
  have zero (octet : UInt8) : Char.ofNat octet.toNat = '0' ↔ octet = 0x30 := by
    constructor
    · intro same
      have number := congrArg Char.toNat same
      rw [toNat_ofNat_octet] at number
      exact UInt8.toNat_inj.mp number
    · rintro rfl
      rfl
  -- The induction is on the octets; the first that is no zero ends the stripping.
  induction value with
  | nil => rfl
  | cons octet rest ih =>
    by_cases leading : octet = 0x30
    · have stripped : stripZeros (octet :: rest) = stripZeros rest := by
        simp [stripZeros, leading]
      have dropped : (asText (octet :: rest)).dropWhile (· = '0') =
          (asText rest).dropWhile (· = '0') := by
        simp [asText, (zero octet).mpr leading]
      rw [stripped, dropped]
      exact ih
    · have stripped : stripZeros (octet :: rest) = octet :: rest := by
        simp [stripZeros, leading]
      have kept : Char.ofNat octet.toNat ≠ '0' := fun same => leading ((zero octet).mp same)
      rw [stripped]
      simp [asText, kept]

/-- What is left of a number without its leading zeros, or a zero. -/
def significantOctets (value : Bytes) : Bytes :=
  if stripZeros value = [] then ascii "0" else stripZeros value

theorem asText_significantOctets (value : Bytes) :
    asText (significantOctets value) = significantDigits (asText value) := by
  have empty : stripZeros value = [] ↔ (asText value).dropWhile (· = '0') = [] := by
    rw [← asText_stripZeros, asText, map_eq_nil_iff]
  unfold significantOctets significantDigits
  by_cases zeros : stripZeros value = []
  · rw [if_pos zeros, if_pos (empty.mp zeros)]
    rfl
  · rw [if_neg zeros, if_neg (mt empty.mpr zeros)]
    exact asText_stripZeros value

/-! ### One length -/

/-- The limit, and what is larger by digits alone. -/
theorem limit_digits : (decimalOctets maxRequestBody).length = 7 ∧ maxRequestBody + 1 < 10 ^ 7 := by
  decide

/-- A bounded length is the declared one, or one more than the limit. -/
theorem boundedContentLength_eq (numeric : isDigits value = true) :
    boundedContentLength value = min (decimalValue value) (maxRequestBody + 1) := by
  obtain ⟨-, digits⟩ := isDigits_iff.mp numeric
  obtain ⟨width, small⟩ := limit_digits
  have length : (significantOctets value).length = (significantDigits (asText value)).length := by
    rw [← asText_significantOctets, length_asText]
  have fits := length_significantDigits_le_iff digits (show 0 < 7 by omega)
  have denotes : decimalValue (significantOctets value) = decimalValue value := by
    rw [decimalValue_eq, asText_significantOctets, textValue_significantDigits digits,
      decimalValue_eq]
  show (if (significantOctets value).length > (decimalOctets maxRequestBody).length then _
    else min (decimalValue (significantOctets value)) _) = _
  rw [width, denotes]
  rw [← decimalValue_eq, ← length] at fits
  by_cases long : (significantOctets value).length > 7
  · -- More than seven significant digits denote more than the limit.
    rw [if_pos long, min_eq_right]
    omega
  · rw [if_neg long]

/-- The bound with the conversion of digits as a parameter, which may refuse to convert. -/
def boundedContentLengthWith (int : Bytes → Option Nat) (value : Bytes) : Option Nat :=
  let significant := if stripZeros value = [] then ascii "0" else stripZeros value
  if significant.length > (decimalOctets maxRequestBody).length then some (maxRequestBody + 1)
  else (int significant).map fun number => min number (maxRequestBody + 1)

/-- The digits that are converted are digits, and at most seven. -/
theorem boundedContentLengthWith_eq {int : Bytes → Option Nat}
    (converts : ∀ digits, isDigits digits = true → digits.length ≤ 7 →
      int digits = some (decimalValue digits)) (numeric : isDigits value = true) :
    boundedContentLengthWith int value = some (boundedContentLength value) := by
  obtain ⟨-, digits⟩ := isDigits_iff.mp numeric
  show (if (significantOctets value).length > (decimalOctets maxRequestBody).length then _
    else (int (significantOctets value)).map _) =
      some (if (significantOctets value).length > (decimalOctets maxRequestBody).length then _
        else min (decimalValue (significantOctets value)) _)
  rw [limit_digits.1]
  by_cases long : (significantOctets value).length > 7
  · rw [if_pos long, if_pos long]
  · rw [if_neg long, if_neg long]
    -- What is left without the zeros is a number again.
    have significant : isDigits (significantOctets value) = true := by
      rw [isDigits_iff, asText_significantOctets, significantDigits_eq digits]
      refine ⟨?_, isDigit_toDigits _⟩
      intro empty
      have written := asText_significantOctets value
      rw [empty, significantDigits_eq digits] at written
      exact Nat.toDigits_ne_nil written.symm
    rw [converts _ significant (not_lt.mp long)]
    rfl

/-! ### Many lengths -/

/-- Two of the numbers are different. -/
def Differ (numbers : List Nat) : Prop := ∃ first ∈ numbers, ∃ second ∈ numbers, first ≠ second

/-- Comparing everything with the first member finds two that differ, if there are any. -/
theorem any_ne_head_iff {α β : Type} [DecidableEq β] (key : α → β) (members : List α) (unused : α) :
    (members.any fun member => key member ≠ key (members.headD unused)) = true ↔
      ∃ first ∈ members, ∃ second ∈ members, key first ≠ key second := by
  cases members with
  | nil => simp
  | cons head rest =>
    rw [any_eq_true]
    constructor
    · rintro ⟨member, listed, differs⟩
      exact ⟨member, listed, head, mem_cons_self .., by simpa using differs⟩
    · rintro ⟨first, listed, second, listed', differs⟩
      -- Of two that differ from each other, one differs from the head.
      by_cases same : key first = key head
      · refine ⟨second, listed', ?_⟩
        rw [same] at differs
        simpa using Ne.symm differs
      · exact ⟨first, listed, by simpa using same⟩

theorem stripZeros_inj (numeric : isDigits value = true) (numeric' : isDigits other = true) :
    stripZeros value = stripZeros other ↔ decimalValue value = decimalValue other := by
  obtain ⟨-, digits⟩ := isDigits_iff.mp numeric
  obtain ⟨-, digits'⟩ := isDigits_iff.mp numeric'
  rw [decimalValue_eq, decimalValue_eq, ← significantDigits_inj digits digits',
    ← asText_significantOctets, ← asText_significantOctets]
  constructor
  · intro same
    rw [significantOctets, significantOctets, same]
  · intro same
    have equal := asText_injective same
    unfold significantOctets at equal
    -- A number that is left without its zeros does not begin with one.
    have begins (digits : Bytes) : stripZeros digits ≠ ascii "0" := by
      intro zero
      have head := List.head?_dropWhile_not (· = (0x30 : UInt8)) digits
      rw [show digits.dropWhile (· = 0x30) = ascii "0" from zero] at head
      simp [ascii] at head
    by_cases zeros : stripZeros value = [] <;> by_cases zeros' : stripZeros other = []
    · rw [zeros, zeros']
    · rw [if_pos zeros, if_neg zeros'] at equal
      exact absurd equal.symm (begins other)
    · rw [if_neg zeros, if_pos zeros'] at equal
      exact absurd equal (begins value)
    · rwa [if_neg zeros, if_neg zeros'] at equal

/-- A list that is not closed is the only one that cannot be read. -/
theorem parseListLoop_error {text current : Text} {result : List Text} {quoted escaped : Bool}
    {message : String} (failed : parseListLoop text result current quoted escaped = .error message) :
    message = "Unterminated quoted HTTP list member" := by
  -- The induction is on the text; only its end can raise.
  induction text generalizing result current quoted escaped with
  | nil =>
    unfold parseListLoop at failed
    split at failed
    · exact (Except.error.inj failed).symm
    · cases failed
  | cons char rest ih =>
    unfold parseListLoop at failed
    split at failed
    · exact ih failed
    split at failed
    · exact ih failed
    split at failed
    · exact ih failed
    split at failed
    · exact ih failed
    · exact ih failed

/-- Where keys tell numbers apart, one that is not the first key means different numbers. -/
theorem any_ne_head_differ {α β : Type} [DecidableEq β] {items : List α} {key : α → β}
    {number : α → Nat} (tells : ∀ first ∈ items, ∀ second ∈ items,
      (key first = key second ↔ number first = number second)) (unused : α) :
    (items.any fun item => key item ≠ key (items.headD unused)) = true ↔
      Differ (items.map number) := by
  rw [any_ne_head_iff]
  simp only [Differ, mem_map, exists_exists_and_eq_and]
  constructor
  · rintro ⟨first, listed, second, listed', other⟩
    exact ⟨first, listed, second, listed', mt (tells first listed second listed').mpr other⟩
  · rintro ⟨first, listed, second, listed', other⟩
    exact ⟨first, listed, second, listed', mt (tells first listed second listed').mp other⟩

/-- The HTTP/2 fields conflict if two of their lengths are different numbers. -/
theorem validateFieldLists_conflict
    (numeric : ∀ value ∈ fieldValues headers (ascii "content-length"), isDigits value = true) :
    validateFieldLists headers = .error (protocolFault "Conflicting Content-Length fields") ↔
      Differ ((fieldValues headers (ascii "content-length")).map decimalValue) := by
  rw [← any_ne_head_differ (fun first listed second listed' =>
    stripZeros_inj (numeric first listed) (numeric second listed')) []]
  unfold validateFieldLists
  by_cases conflicting : ((fieldValues headers (ascii "content-length")).any fun value =>
      stripZeros value ≠ stripZeros
        ((fieldValues headers (ascii "content-length")).headD [])) = true
  · rw [if_pos conflicting]
    exact iff_of_true rfl conflicting
  · rw [if_neg conflicting]
    -- None of the later checks reports a conflict.
    refine iff_of_false ?_ conflicting
    split
    · simp [throw, throwThe, MonadExceptOf.throw, protocolFault]
    · cases listed : parseHttpList (fieldValues headers (ascii "te")) with
      | error message =>
        have said := parseListLoop_error listed
        simp [asProtocolFault, bind, Except.bind, protocolFault, said]
      | ok options =>
        simp only [asProtocolFault, bind, Except.bind]
        split
        · simp [throw, throwThe, MonadExceptOf.throw, protocolFault]
        · simp [pure, Except.pure]

/-- The HTTP/1.1 fields conflict if two of the lengths they list are different numbers. -/
theorem validateLengths_conflict {fields : List (List LengthMember)}
    (some : ∀ field ∈ fields, field ≠ []) :
    (validateLengths (fields.map lengthsText) =
        .error (badRequest "Conflicting Content-Length values") ↔
      Differ (fields.flatten.map fun member => textValue member.digits)) ∧
    (validateLengths (fields.map lengthsText) = .ok () ↔
      ¬ Differ (fields.flatten.map fun member => textValue member.digits)) := by
  have differ : _ ↔ Differ ((fields.flatten.map digits).map textValue) :=
    any_ne_head_differ (fun _ listed _ listed' => by
      obtain ⟨member, -, rfl⟩ := mem_map.mp listed
      obtain ⟨other, -, rfl⟩ := mem_map.mp listed'
      exact significantDigits_inj member.numeric other.numeric) []
  rw [map_map] at differ
  change _ ↔ Differ (fields.flatten.map fun member => textValue member.digits) at differ
  rw [← differ]
  have digital : ((fields.flatten.map digits).any
      fun value => value = [] || !value.all isDigit) = false := by
    rw [any_eq_false]
    intro value listed
    obtain ⟨member, -, rfl⟩ := mem_map.mp listed
    simp [member.nonempty, member.numeric]
  have values := lengthValues_lengthsText some
  unfold lengthValues at values
  simp only [validateLengths, values]
  rw [digital, if_neg (by simp)]
  by_cases conflicting : ((fields.flatten.map digits).any fun value =>
      significantDigits value ≠
        significantDigits ((fields.flatten.map digits).headD [])) = true
  · rw [if_pos conflicting]
    exact ⟨iff_of_true rfl conflicting, iff_of_false (by simp) (not_not.mpr conflicting)⟩
  · rw [if_neg conflicting]
    exact ⟨iff_of_false (by simp) conflicting, iff_of_true rfl conflicting⟩

/-! ### The lengths that the library is shown -/

/-- The digits that stand for a declared length in the list for h2. -/
def canonicalLength (value : Bytes) : Bytes := decimalOctets (boundedContentLength value)

theorem asText_decimalOctets (number : Nat) :
    asText (decimalOctets number) = Nat.toDigits 10 number := by
  have digits := all_eq_true.mp (isDigit_toDigits number)
  rw [decimalOctets, asText, map_map]
  refine (map_congr_left fun char among => ?_).trans (map_id _)
  -- A digit is below 256, so its octet stands for it.
  have range := isDigit_iff.mp (digits char among)
  have small : char.toNat < 256 := by omega
  simp only [Function.comp_apply, UInt8.toNat_ofNat', id_eq]
  rw [Nat.mod_eq_of_lt small, Char.ofNat_toNat]

theorem decimalValue_canonicalLength (numeric : isDigits value = true) :
    decimalValue (canonicalLength value) = min (decimalValue value) (maxRequestBody + 1) := by
  rw [decimalValue_eq, canonicalLength, asText_decimalOctets, textValue_toDigits,
    boundedContentLength_eq numeric]

/-- In the list for h2 every length is the canonical one, and the others are what they were. -/
theorem fieldValues_workingHeaders
    (numeric : ∀ value ∈ fieldValues headers (ascii "content-length"), isDigits value = true) :
    fieldValues (workingHeaders headers) (ascii "content-length") =
      (fieldValues headers (ascii "content-length")).map canonicalLength := by
  -- The induction is on the fields, of which only lengths are replaced.
  induction headers with
  | nil => rfl
  | cons field rest ih =>
    obtain ⟨name, value⟩ := field
    by_cases length : name = ascii "content-length"
    · have found : fieldValues ((name, value) :: rest) (ascii "content-length") =
          value :: fieldValues rest (ascii "content-length") := by
        simp [fieldValues, length]
      rw [found] at numeric
      have digits := numeric value (mem_cons_self ..)
      have later := ih fun other listed => numeric other (mem_cons_of_mem _ listed)
      have replaced : workingHeaders ((name, value) :: rest) =
          (name, canonicalLength value) :: workingHeaders rest := by
        simp [workingHeaders, length, digits, canonicalLength]
      rw [found, replaced, map_cons, ← later]
      simp [fieldValues, length]
    · have found : fieldValues ((name, value) :: rest) (ascii "content-length") =
          fieldValues rest (ascii "content-length") := by
        simp [fieldValues, length]
      rw [found] at numeric
      have kept : workingHeaders ((name, value) :: rest) = (name, value) :: workingHeaders rest := by
        simp [workingHeaders, length]
      rw [found, kept, ← ih numeric]
      simp [fieldValues, length]

/--
Lengths of any number of digits are compared as the integers they denote.

The bound converts at most seven digits, and both protocols find the same conflicts.
-/
theorem contentLengths_exact (values : List Bytes)
    (numeric : ∀ value ∈ values, isDigits value = true) :
    (∀ value ∈ values,
      boundedContentLength value = min (decimalValue value) (maxRequestBody + 1) ∧
      ∀ int : Bytes → Option Nat,
        (∀ digits, isDigits digits = true → digits.length ≤ 7 →
          int digits = some (decimalValue digits)) →
        boundedContentLengthWith int value = some (boundedContentLength value)) ∧
    (∀ headers : List Field, fieldValues headers (ascii "content-length") = values →
      (validateFieldLists headers =
          .error (protocolFault "Conflicting Content-Length fields") ↔
        Differ (values.map decimalValue)) ∧
      fieldValues (workingHeaders headers) (ascii "content-length") =
        values.map canonicalLength) ∧
    (∀ (headers : List (Text × Text)) (fields : List (List LengthMember)),
      fieldTexts headers "transfer-encoding" = [] →
      fieldTexts headers "content-length" = fields.map lengthsText →
      (∀ field ∈ fields, field ≠ []) →
      fields.flatten.map digits = values.map asText →
      (validateFraming headers = .error (badRequest "Conflicting Content-Length values") ↔
        Differ (values.map decimalValue)) ∧
      (validateFraming headers = .ok () ↔ ¬ Differ (values.map decimalValue))) ∧
    (∀ first ∈ values, ∀ second ∈ values, decimalValue first = decimalValue second →
      canonicalLength first = canonicalLength second) ∧
    ∀ value ∈ values, maxRequestBody < decimalValue value →
      maxRequestBody < decimalValue (canonicalLength value) := by
  refine ⟨?bounded, ?fields, ?lines, ?equal, ?above⟩
  case bounded =>
    intro value listed
    refine ⟨boundedContentLength_eq (numeric value listed), fun int converts => ?_⟩
    exact boundedContentLengthWith_eq converts (numeric value listed)
  case fields =>
    rintro headers rfl
    exact ⟨validateFieldLists_conflict numeric, fieldValues_workingHeaders numeric⟩
  case lines =>
    intro headers fields uncoded listed some same
    -- The members of the lines denote the numbers that the values denote.
    have numbers : (fields.flatten.map fun member => textValue member.digits) =
        values.map decimalValue := by
      calc (fields.flatten.map fun member => textValue member.digits)
          = (fields.flatten.map digits).map textValue := by
            rw [map_map]
            rfl
        _ = values.map decimalValue := by
            rw [same, map_map]
            exact map_congr_left fun value _ => (decimalValue_eq value).symm
    rw [validateFraming_lengths uncoded, listed, ← numbers]
    exact validateLengths_conflict some
  case equal =>
    intro first listed second listed' same
    rw [canonicalLength, canonicalLength, boundedContentLength_eq (numeric first listed),
      boundedContentLength_eq (numeric second listed'), same]
  case above =>
    intro value listed large
    rw [decimalValue_canonicalLength (numeric value listed)]
    omega

/-- Two spellings of one number and a third number, with many digits. -/
theorem contentLengths_exact_conflict :
    validateFieldLists [(ascii "content-length", ascii "7"), (ascii "content-length", ascii "007")] ≠
        .error (protocolFault "Conflicting Content-Length fields") ∧
      boundedContentLength (ascii "99999999999999999999") = 1048577 := by
  have same := contentLengths_exact [ascii "7", ascii "007"] (by decide)
  have large := contentLengths_exact [ascii "99999999999999999999"] (by decide)
  constructor
  · rw [Ne, (same.2.1 _ (by decide)).1]
    simp [Differ, ascii, decimalValue]
  · rw [(large.1 _ (mem_singleton_self _)).1]
    decide

end SolveTls
