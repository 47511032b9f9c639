import SolveTls.Proofs.Wire.Reader
import SolveTls.Tls.Fingerprints

/-! What a fingerprint takes from a payload, against what the report shows of the same octets. -/

namespace SolveTls

open Fallible ByteReader ClientHello List

variable {α : Type} {data : Bytes}
variable {lengthBytes extType : Nat} {fits : List α → Prop} {encode : List α → Bytes}
  {action : ReaderM (List α)} {field : String} {utf8 : Bytes → Text} {names : Dict Nat String}

/-! ## The vectors of numbers and octets -/

/-- The numbers fit their fields, and all of them fit behind the length. -/
def NumbersFit (lengthBytes : Nat) (values : List Nat) : Prop :=
  (∀ value ∈ values, value < 2 ^ 16) ∧
    (values.flatMap encodeUint16).length < 256 ^ lengthBytes

def encodeNumbers (lengthBytes : Nat) (values : List Nat) : Bytes :=
  encodeVector lengthBytes (values.flatMap encodeUint16)

/-- The octets are octets, and all of them fit behind the length. -/
def OctetsFit (values : List Nat) : Prop := (∀ value ∈ values, value < 2 ^ 8) ∧ values.length < 2 ^ 8

def encodeOctets (values : List Nat) : Bytes := encodeVector 1 (values.map UInt8.ofNat)

/-- Numbers are read where they stand behind their length. -/
theorem inverts_readValues (known : lengthBytes = 1 ∨ lengthBytes = 2) :
    Inverts (uint16Values.readValues lengthBytes) (NumbersFit lengthBytes)
      (encodeNumbers lengthBytes) :=
  inverts_elements known inverts_readUint16 fun value _ => encodeUint16_ne_nil value

/-- Octets are read where they stand behind their length. -/
theorem inverts_readOctets :
    Inverts (List.map UInt8.toNat <$> readVector 1) OctetsFit encodeOctets := by
  refine inverts_readVector_one.map (List.map UInt8.toNat) (List.map UInt8.ofNat) ?_ ?_
  · intro octets short
    refine ⟨⟨lt_of_mem_map_toNat octets, ?_⟩, map_ofNat_toNat octets⟩
    rw [length_map]
    exact short
  · rintro values ⟨small, short⟩
    refine ⟨?_, map_toNat_ofNat small⟩
    rw [length_map]
    exact short

/-! ## Two readers of one payload -/

/-- How the report shows that a payload is wrong. -/
def shownError (message : String) : Json := .object [("error", .text message.toList)]

/-- How a decoder's values are shown, or its error. -/
def shownOutcome (shown : α → Json) : Except String α → Json
  | .ok value => shown value
  | .error message => shownError message

/-- What the fingerprint functions make of a reader: on an error there are no values. -/
def takenBy (action : ReaderM (List α)) (data : Bytes) : List α :=
  match (action { data }).1 with
  | .ok values => values
  | .error _ => []

/-- Well-formed values are taken, whatever follows them. -/
theorem takenBy_of_inverts (inverts : Inverts action fits encode) {values : List α}
    (fit : fits values) (trailing : Bytes) :
    takenBy action (encode values ++ trailing) = values := by
  have valid := valid_start (encode values ++ trailing)
  have ahead := rest_start (encode values ++ trailing)
  obtain ⟨reached, reachedValid, same, behind⟩ := exists_behind valid ahead
  have ran : action { data := encode values ++ trailing } = (.ok values, reached) := by
    rw [inverts.eq_ok valid, behind]
    exact ⟨fit, reachedValid, same, ahead⟩
  rw [takenBy, ran]

theorem uint16Values_eq_takenBy (lengthBytes : Nat) (data : Bytes) :
    uint16Values lengthBytes data = takenBy (uint16Values.readValues lengthBytes) data := by
  unfold uint16Values takenBy
  cases (uint16Values.readValues lengthBytes { data }).1 <;> rfl

theorem uint16Values_encodeNumbers (known : lengthBytes = 1 ∨ lengthBytes = 2) {values : List Nat}
    (fit : NumbersFit lengthBytes values) (trailing : Bytes) :
    uint16Values lengthBytes (encodeNumbers lengthBytes values ++ trailing) = values := by
  rw [uint16Values_eq_takenBy]
  exact takenBy_of_inverts (inverts_readValues known) fit trailing

/-- The values of a fingerprint are those that the report shows, up to what stands behind them. -/
structure Agreement (fits : List α → Prop) (encode : List α → Bytes) (shown : List α → Json)
    (data : Bytes) (report : Option Json) (taken : List α) : Prop where
  /-- Either values are shown or an error. -/
  total : (∃ values, report = some (shown values)) ∨ ∃ message, report = some (shownError message)
  /-- The values that are shown are those that are taken. -/
  decoded : ∀ values, report = some (shown values) → taken = values
  /-- On an error nothing is taken, unless only what follows the values is wrong. -/
  failed : ∀ message, report = some (shownError message) →
    taken = [] ∨ ∃ trailing, trailing ≠ [] ∧ data = encode taken ++ trailing
  /-- What follows well-formed values does not change what is taken. -/
  followed : ∀ values trailing, fits values → data = encode values ++ trailing → taken = values
  /-- But it is shown as an error. -/
  trailed : ∀ values trailing, fits values → trailing ≠ [] → data = encode values ++ trailing →
    ∃ message, report = some (shownError message)

/-- The outcome of a decoder that has to use up the payload. -/
theorem decodeWhole_map (shown : α → Json) (action : ReaderM α) (reader : ByteReader) :
    (decodeWhole (shown <$> action) reader).1 =
      match action reader with
      | (.ok value, next) =>
        if next.hasMore = true then .error "Unexpected trailing bytes in extension payload"
        else .ok (shown value)
      | (.error message, _) => .error message := by
  rw [decodeWhole, map_eq_bind, bind_assoc_eq, bind_apply]
  rcases outcome : action reader with ⟨message | value, next⟩
  · rfl
  · show ((raiseIf (next.hasMore = true) _ >>= fun _ => pure (shown value)) next).1 = _
    by_cases more : next.hasMore = true
    · simp [more]
    · simp [more]

/-- A reader of a vector and the decoder that shows its values agree. -/
theorem agreement_of_inverts (inverts : Inverts action fits encode) {shown : List α → Json}
    (injective : Function.Injective shown)
    (noError : ∀ values message, shown values ≠ shownError message) :
    Agreement fits encode shown data
      (some (shownOutcome id (decodeWhole (shown <$> action) { data }).1)) (takenBy action data) := by
  have valid := valid_start data
  have followed : ∀ values trailing, fits values → data = encode values ++ trailing →
      takenBy action data = values := by
    rintro values trailing fit rfl
    exact takenBy_of_inverts inverts fit trailing
  rw [decodeWhole_map]
  rcases outcome : action { data } with ⟨message | values, next⟩
  · -- Both readers stop at the same error.
    have taken : takenBy action data = [] := by rw [takenBy, outcome]
    refine ⟨.inr ⟨message, rfl⟩, fun values report => ?_, fun _ _ => .inl taken, followed,
      fun _ _ _ _ _ => ⟨message, rfl⟩⟩
    exact absurd (Option.some.inj report).symm (noError values message)
  · obtain ⟨fit, nextValid, same, ahead⟩ := (inverts.eq_ok valid).mp outcome
    have taken : takenBy action data = values := followed values next.rest fit ahead
    by_cases more : next.hasMore = true
    · -- Only the decoder looks at what is left.
      simp only [more, if_true]
      refine ⟨.inr ⟨_, rfl⟩, fun shownValues report => ?_, fun _ _ => ?_, followed,
        fun _ _ _ _ _ => ⟨_, rfl⟩⟩
      · exact absurd (Option.some.inj report).symm (noError shownValues _)
      · exact .inr ⟨next.rest, hasMore_iff.mp more, by rwa [taken]⟩
    · have spent : next.rest = [] := not_not.mp (mt hasMore_iff.mpr more)
      rw [spent, append_nil] at ahead
      simp only [more]
      refine ⟨.inl ⟨values, rfl⟩, ?_, ?_, followed, ?_⟩
      · exact fun _ report => taken.trans (injective (Option.some.inj report))
      · exact fun message report => absurd (Option.some.inj report) (noError values message)
      · -- Nothing was left behind the values, so nothing follows them.
        intro others trailing fit nonempty behind
        obtain rfl : values = others := taken.symm.trans (followed others trailing fit behind)
        exact absurd (self_eq_append_right.mp (ahead.symm.trans behind)) nonempty

/-! ## The five extensions -/

/-- Values with their names, under the name of a field. -/
def shownNumbers (field : String) (names : Dict Nat String) (values : List Nat) : Json :=
  .object [(field, .list (values.map (describeIn names)))]

/-- Protocol identifiers as text. -/
def shownProtocols (protocols : List Bytes) : Json :=
  .object [("protocols", .list (protocols.map fun protocol => .text (asText protocol)))]

/-- A description begins with the value. -/
theorem describeIn_injective (names : Dict Nat String) : Function.Injective (describeIn names) := by
  intro first second same
  have begins (value : Nat) :
      ∃ rest, describeIn names value = .object (("value", .number value) :: rest) := by
    unfold describeIn describe
    by_cases grease : value ∈ greaseValues
    · exact ⟨_, by rw [if_pos grease]; rfl⟩
    · exact ⟨_, by rw [if_neg grease]⟩
  obtain ⟨rest, shape⟩ := begins first
  obtain ⟨rest', shape'⟩ := begins second
  rw [shape, shape'] at same
  simp only [Json.object.injEq, cons.injEq, Prod.mk.injEq, Json.number.injEq, true_and] at same
  exact same.1

theorem shownNumbers_injective (field : String) (names : Dict Nat String) :
    Function.Injective (shownNumbers field names) := by
  intro first second same
  simp only [shownNumbers, Json.object.injEq, cons.injEq, Prod.mk.injEq, Json.list.injEq,
    true_and, and_true] at same
  exact map_injective_iff.mpr (describeIn_injective names) same

theorem shownNumbers_ne_shownError (other : field ≠ "error") (names : Dict Nat String)
    (values : List Nat) (message : String) :
    shownNumbers field names values ≠ shownError message := by
  intro same
  simp only [shownNumbers, shownError, Json.object.injEq, cons.injEq, Prod.mk.injEq] at same
  exact other same.1.1

/-- The decoder of a vector of numbers shows what the fingerprint functions read. -/
theorem decodeUint16Vector_eq (field : String) (lengthBytes : Nat) (names : Dict Nat String) :
    decodeUint16Vector field lengthBytes names =
      shownNumbers field names <$> uint16Values.readValues lengthBytes := by
  unfold decodeUint16Vector uint16List uint16Values.readValues
  simp only [map_eq_bind, bind_assoc_eq, pure_bind_eq]
  rfl

theorem decodeOctetVector_eq (field : String) (names : Dict Nat String) :
    decodeOctetVector field names =
      shownNumbers field names <$> (List.map UInt8.toNat <$> readVector 1) := by
  unfold decodeOctetVector shownNumbers
  simp only [map_eq_bind, bind_assoc_eq, pure_bind_eq, map_map]
  rfl

/-- Nothing is left behind the protocol identifiers, so their own check decides. -/
theorem decodeWhole_alpn (data : Bytes) :
    (decodeWhole decodeAlpn { data }).1 = shownProtocols <$> parseAlpnProtocols data := by
  have remaining : readRemaining { data } = (.ok data, { data, pos := data.length }) := by
    simp [readRemaining, ByteReader.read, bind_apply]
  have nothing : ({ data, pos := data.length } : ByteReader).hasMore = false := by simp [hasMore]
  rw [decodeWhole, decodeAlpn, bind_assoc_eq, bind_apply, remaining]
  dsimp only
  cases outcome : parseAlpnProtocols data with
  | error message => rfl
  | ok protocols =>
    show ((raiseIf (_ = true) _ >>= fun _ => pure (shownProtocols protocols)) _).1 = _
    rw [nothing]
    rfl

theorem decodeExtension_eq {decoder : ReaderM Json} (known : decoder? utf8 extType = some decoder) :
    decodeExtension utf8 extType data =
      some (shownOutcome id (decodeWhole decoder { data }).1) := by
  rw [decodeExtension, known, Option.map_some]
  cases (decodeWhole decoder { data }).1 <;> rfl

/-- A vector of numbers of the hello, against the report on its payload. -/
theorem agreement_uint16Values (width : lengthBytes = 1 ∨ lengthBytes = 2) (other : field ≠ "error")
    (known : decoder? utf8 extType = some (decodeUint16Vector field lengthBytes names)) :
    Agreement (NumbersFit lengthBytes) (encodeNumbers lengthBytes) (shownNumbers field names) data
      (decodeExtension utf8 extType data) (uint16Values lengthBytes data) := by
  rw [decodeExtension_eq known, decodeUint16Vector_eq, uint16Values_eq_takenBy]
  exact agreement_of_inverts (inverts_readValues width) (shownNumbers_injective field names)
    (shownNumbers_ne_shownError other names)

/-- A vector of octets of the hello, against the report on its payload. -/
theorem agreement_octetValues (other : field ≠ "error")
    (known : decoder? utf8 extType = some (decodeOctetVector field names)) :
    Agreement OctetsFit encodeOctets (shownNumbers field names) data
      (decodeExtension utf8 extType data) (octetValues data) := by
  have taken : octetValues data = takenBy (List.map UInt8.toNat <$> readVector 1) data := by
    unfold octetValues takenBy
    rw [map_eq_bind, bind_apply]
    rcases readVector 1 { data } with ⟨message | octets, next⟩ <;> rfl
  rw [decodeExtension_eq known, decodeOctetVector_eq, taken]
  exact agreement_of_inverts inverts_readOctets (shownNumbers_injective field names)
    (shownNumbers_ne_shownError other names)

/-- The report on protocol identifiers shows those that a fingerprint takes, or an error and
there are none. -/
theorem decodeExtension_alpn (utf8 : Bytes → Text) (data : Bytes) :
    (decodeExtension utf8 ExtensionType.applicationLayerProtocolNegotiation data =
      some (shownProtocols (protocolValues data))) ∨
    ∃ message, decodeExtension utf8 ExtensionType.applicationLayerProtocolNegotiation data =
      some (shownError message) ∧ protocolValues data = [] := by
  have known : decoder? utf8 ExtensionType.applicationLayerProtocolNegotiation = some decodeAlpn :=
    rfl
  rw [decodeExtension_eq known, decodeWhole_alpn, protocolValues]
  cases parseAlpnProtocols data with
  | error message => exact .inr ⟨message, rfl, rfl⟩
  | ok protocols => exact .inl rfl

/-- What the fingerprints take from the first extension of a type is what the report shows of it;
only octets behind a well-formed vector are an error that the fingerprints do not see. -/
theorem fingerprints_take_shown (utf8 : Bytes → Text) (hello : ClientHello) :
    (∀ data, hello.extensionData ExtensionType.supportedGroups = some data →
      Agreement (NumbersFit 2) (encodeNumbers 2) (shownNumbers "groups" namedGroupNames) data
        (decodeExtension utf8 ExtensionType.supportedGroups data) hello.supportedGroups) ∧
    (∀ data, hello.extensionData ExtensionType.signatureAlgorithms = some data →
      Agreement (NumbersFit 2) (encodeNumbers 2) (shownNumbers "algorithms" signatureSchemeNames)
        data (decodeExtension utf8 ExtensionType.signatureAlgorithms data)
        hello.signatureAlgorithms) ∧
    (∀ data, hello.extensionData ExtensionType.supportedVersions = some data →
      Agreement (NumbersFit 1) (encodeNumbers 1) (shownNumbers "versions" tlsVersionNames) data
        (decodeExtension utf8 ExtensionType.supportedVersions data) hello.supportedVersions) ∧
    (∀ data, hello.extensionData ExtensionType.ecPointFormats = some data →
      Agreement OctetsFit encodeOctets (shownNumbers "formats" ecPointFormatNames) data
        (decodeExtension utf8 ExtensionType.ecPointFormats data) hello.ecPointFormats) ∧
    (∀ data, hello.extensionData ExtensionType.applicationLayerProtocolNegotiation = some data →
      decodeExtension utf8 ExtensionType.applicationLayerProtocolNegotiation data =
        some (shownProtocols hello.alpnProtocols) ∨
      ∃ message, decodeExtension utf8 ExtensionType.applicationLayerProtocolNegotiation data =
        some (shownError message) ∧ hello.alpnProtocols = []) := by
  refine ⟨?_, ?_, ?_, ?_, ?_⟩
  · intro data first
    rw [supportedGroups, uint16Vector, first]
    exact agreement_uint16Values (.inr rfl) (by decide) rfl
  · intro data first
    rw [signatureAlgorithms, uint16Vector, first]
    exact agreement_uint16Values (.inr rfl) (by decide) rfl
  · intro data first
    rw [supportedVersions, uint16Vector, first]
    exact agreement_uint16Values (.inl rfl) (by decide) rfl
  · intro data first
    rw [ecPointFormats, first]
    exact agreement_octetValues (by decide) rfl
  · intro data first
    rw [alpnProtocols, first]
    exact decodeExtension_alpn utf8 data

/-- A hello with a single group, and maybe more behind the vector. -/
def groupHello (trailing : Bytes) : ClientHello where
  version := 0x0303
  random := List.replicate 32 0
  sessionId := []
  cipherSuites := []
  compressionMethods := []
  extensions := [{ type := ExtensionType.supportedGroups, data := [0, 2, 0, 0x1D] ++ trailing }]

/-- The single group is taken, and shown where nothing follows it. -/
theorem fingerprints_take_shown_group :
    (groupHello []).supportedGroups = [0x1D] ∧
      decodeExtension (fun _ => []) ExtensionType.supportedGroups [0, 2, 0, 0x1D] =
        some (shownNumbers "groups" namedGroupNames [0x1D]) :=
  have agreement := (fingerprints_take_shown (fun _ => []) (groupHello [])).1 [0, 2, 0, 0x1D] rfl
  ⟨agreement.decoded [0x1D] rfl, rfl⟩

/-- The report can show an error for a payload from which the fingerprints take a group. -/
theorem group_taken_despite_error : ¬ ∀ (utf8 : Bytes → Text) (hello : ClientHello) data message,
    hello.extensionData ExtensionType.supportedGroups = some data →
    decodeExtension utf8 ExtensionType.supportedGroups data = some (shownError message) →
    hello.supportedGroups = [] := by
  intro empty
  have none := empty (fun _ => []) (groupHello [0xFF]) [0, 2, 0, 0x1D, 0xFF]
    "Unexpected trailing bytes in extension payload" rfl rfl
  cases none

end SolveTls
