import SolveTls.Proofs.Http1.Characters
import SolveTls.Proofs.Tls.Extensions

/-! The report on an extension shows exactly the elements that its payload is made of. -/

namespace SolveTls

open Fallible ByteReader ExtensionType List

variable {α β : Type} {utf8 : Bytes → Text} {extType : Nat} {data : Bytes}
variable {action element : ReaderM α} {decoder : ReaderM Json} {lengthBytes : Nat} {field : String}
  {names : Dict Nat String}

/-! ## What the payload of an extension is made of -/

/-- How values of a kind are laid out in a payload, and how the report shows them. -/
structure PayloadGrammar (α : Type) where
  fits : α → Prop
  encode : α → Bytes
  shown : α → Json

/-- A list of 16-bit numbers behind a length. -/
def numberList (lengthBytes : Nat) (field : String) (names : Dict Nat String) :
    PayloadGrammar (List Nat) where
  fits := NumbersFit lengthBytes
  encode := encodeNumbers lengthBytes
  shown := shownNumbers field names

/-- A list of octets behind a length. -/
def octetList (field : String) (names : Dict Nat String) : PayloadGrammar (List Nat) where
  fits := OctetsFit
  encode := encodeOctets
  shown := shownNumbers field names

/-- A list of protocol identifiers, each behind its own length. -/
def protocolList : PayloadGrammar (List Bytes) where
  fits := VectorFits 2 (fun protocol => protocol.length < 2 ^ 8) (encodeVector 1)
  encode := encodeElements 2 (encodeVector 1)
  shown := shownProtocols

/-- A group with the key that is offered for it. -/
def shownShare (share : Nat × Bytes) : Json := .object [
  ("group", describeIn namedGroupNames share.1),
  ("key_exchange_length", .number share.2.length),
  ("key_exchange", .text (Hex.encode share.2))]

/-- A list of key shares. -/
def shareList : PayloadGrammar (List (Nat × Bytes)) where
  fits := VectorFits 2 (fun share => share.1 < 2 ^ 16 ∧ share.2.length < 2 ^ 16)
    fun share => encodeUint16 share.1 ++ encodeVector 2 share.2
  encode := encodeElements 2 fun share => encodeUint16 share.1 ++ encodeVector 2 share.2
  shown shares := .object [("shares", .list (shares.map shownShare))]

/-- The type of a name and the name, with replacement characters where it is not UTF-8. -/
def shownName (utf8 : Bytes → Text) (name : Nat × Bytes) : Json := .object [
  ("type", describeIn serverNameTypeNames name.1),
  ("host", .text (utf8 name.2))]

/-- A list of server names, each behind its type. -/
def nameList (utf8 : Bytes → Text) : PayloadGrammar (List (Nat × Bytes)) where
  fits := VectorFits 2 (fun name => name.1 < 2 ^ 8 ∧ name.2.length < 2 ^ 16)
    fun name => Octets.toBigEndian 1 name.1 ++ encodeVector 2 name.2
  encode := encodeElements 2 fun name => Octets.toBigEndian 1 name.1 ++ encodeVector 2 name.2
  shown names := .object [("server_names", .list (names.map (shownName utf8)))]

/-- A single 16-bit number. -/
def singleLimit : PayloadGrammar Nat where
  fits limit := limit < 2 ^ 16
  encode := encodeUint16
  shown limit := .object [("limit", .number limit)]

/-- Whether a report says that the payload is wrong. -/
def isError (report : Json) : Bool := (report.field? "error").isSome

/-- A payload is shown without an error if it is laid out as the grammar says, and as what it is. -/
def DecodesExactly (report : Bytes → Option Json) (grammar : PayloadGrammar α) : Prop :=
  ∀ data value, (report data = some value ∧ isError value = false) ↔
    ∃ elements, grammar.fits elements ∧ data = grammar.encode elements ∧
      value = grammar.shown elements

/-- Nothing of a payload is lost in the report. -/
structure DecodesLosslessly (report : Bytes → Option Json) (grammar : PayloadGrammar α) : Prop where
  exact : DecodesExactly report grammar
  /-- The elements that are shown, written again, are the payload. -/
  reencodes : ∀ data elements, report data = some (grammar.shown elements) →
    grammar.encode elements = data
  /-- Two payloads are shown alike only if they are the same. -/
  separates : ∀ data other value, report data = some value → report other = some value →
    isError value = false → data = other

/-- The texts of the `ValueError`s that reading a payload can raise. -/
def extensionErrors : List String := [
  "Insufficient data",
  "Unexpected trailing bytes in extension payload",
  "Unexpected trailing bytes in ALPN extension payload",
  "record_size_limit must contain exactly 2 bytes"]

/-! ## From decoders to reports -/

/-- A decoder whose values are no errors, and whose errors are those that are caught. -/
structure Tame (decoder : ReaderM Json) : Prop where
  returned : ∀ reader value reached, decoder reader = (.ok value, reached) → isError value = false
  raised : ∀ reader message reached, decoder reader = (.error message, reached) →
    message ∈ extensionErrors

/-- The exits of a reader that raises nothing else. -/
def caught : Exits ByteReader String where
  returns _ _ := True
  raises _ message _ := message ∈ extensionErrors

/-- Only errors are looked at, so these exits chain. -/
theorem caught_chained : caught.Chained :=
  ⟨fun _ => trivial, fun _ _ => trivial, fun _ raised => raised⟩

/-- A check raises an error of the list. -/
theorem covers_check {condition : Prop} [Decidable condition] {message : String}
    (listed : message ∈ extensionErrors) :
    caught.Covers (raiseIf condition message : ReaderM Unit) :=
  caught_chained.covers_raiseIf fun _ => listed

/-- The check that nothing is left, and what follows it. -/
theorem covers_atEnd {message : String} (listed : message ∈ extensionErrors)
    (covers : caught.Covers action) : caught.Covers (do
      let self ← get
      raiseIf (self.hasMore = true) message
      action : ReaderM α) :=
  caught_chained.covers_bind caught_chained.covers_get fun _ =>
    caught_chained.covers_bind (covers_check listed) fun _ => covers

/-- What is read is shown, and what is raised is passed on. -/
theorem tame_map {shown : α → Json} (covers : caught.Covers action)
    (plain : ∀ value, isError (shown value) = false) : Tame (shown <$> action) := by
  constructor
  · intro reader value reached ran
    rw [map_eq_bind, bind_eq_ok] at ran
    obtain ⟨read, middle, -, returned⟩ := ran
    obtain ⟨rfl, -⟩ := pure_eq_ok.mp returned
    exact plain read
  · intro reader message reached ran
    exact (caught_chained.composed_covers.map covers reader).raised ran

/-- The check behind a decoder adds one caught error. -/
theorem tame_decodeWhole (tame : Tame decoder) : Tame (decodeWhole decoder) := by
  constructor
  · intro reader value reached ran
    simp only [decodeWhole, bind_eq_ok, pure_eq_ok] at ran
    obtain ⟨decoded, middle, first, _, _, -, _, _, -, rfl, -⟩ := ran
    exact tame.returned reader decoded middle first
  · intro reader message reached ran
    rcases bind_eq_error.mp ran with first | ⟨decoded, middle, -, behind⟩
    · exact tame.raised reader message reached first
    · have checked : caught.Covers (do
          let self ← get
          raiseIf (self.hasMore = true) "Unexpected trailing bytes in extension payload"
          return decoded : ReaderM Json) := covers_atEnd (by decide) (caught_chained.covers_pure _)
      exact (checked middle).raised behind

/-- The report shows what the decoder returned. -/
theorem decodeExtension_shows (known : decoder? utf8 extType = some decoder) (tame : Tame decoder)
    (value : Json) :
    (decodeExtension utf8 extType data = some value ∧ isError value = false) ↔
      (decodeWhole decoder { data }).1 = .ok value := by
  rw [decodeExtension_eq known]
  rcases outcome : decodeWhole decoder { data } with ⟨message | decoded, reached⟩
  · -- An error is shown as one.
    constructor
    · rintro ⟨report, plain⟩
      cases report
      cases plain
    · intro returned
      cases returned
  · constructor
    · rintro ⟨report, -⟩
      cases report
      rfl
    · intro returned
      cases returned
      exact ⟨rfl, (tame_decodeWhole tame).returned _ _ _ outcome⟩

variable {grammar : PayloadGrammar α}

/-- A decoder that has to use up the payload returns where the payload is one encoding. -/
theorem decodeWhole_eq_ok (inverts : Inverts action grammar.fits grammar.encode) (value : Json) :
    (decodeWhole (grammar.shown <$> action) { data }).1 = .ok value ↔
      ∃ elements, grammar.fits elements ∧ data = grammar.encode elements ∧
        value = grammar.shown elements := by
  have valid := valid_start data
  rw [decodeWhole_map]
  constructor
  · intro returned
    rcases outcome : action { data } with ⟨message | elements, next⟩
    · rw [outcome] at returned
      cases returned
    · obtain ⟨fit, -, -, ahead⟩ := (inverts.eq_ok valid).mp outcome
      by_cases more : next.hasMore = true
      · simp [outcome, more] at returned
      · -- Nothing is left behind the elements.
        simp only [outcome, more, Bool.false_eq_true, if_false, Except.ok.injEq] at returned
        have done : next.rest = [] := by
          by_contra some
          exact more (hasMore_iff.mpr some)
        rw [rest_start, done, append_nil] at ahead
        exact ⟨elements, fit, ahead, returned.symm⟩
  · rintro ⟨elements, fit, rfl, rfl⟩
    have ahead : rest { data := grammar.encode elements } = grammar.encode elements ++ [] := by
      rw [rest_start, append_nil]
    obtain ⟨next, nextValid, same, behind⟩ := exists_behind valid ahead
    rw [← behind] at ahead
    have ran := (inverts.eq_ok valid).mpr ⟨fit, nextValid, same, ahead⟩
    have ended : next.hasMore = false := by
      rw [Bool.eq_false_iff, Ne, hasMore_iff, behind]
      simp
    simp [ran, ended]

/-- A decoder that inverts the encoding decodes exactly. -/
theorem decodesExactly_of_inverts (known : decoder? utf8 extType = some (grammar.shown <$> action))
    (inverts : Inverts action grammar.fits grammar.encode) (covers : caught.Covers action)
    (plain : ∀ elements, isError (grammar.shown elements) = false) :
    DecodesExactly (decodeExtension utf8 extType) grammar := by
  intro data value
  rw [decodeExtension_shows known (tame_map covers plain), decodeWhole_eq_ok inverts]

/-- Where different elements are shown differently, nothing is lost. -/
theorem DecodesExactly.losslessly {report : Bytes → Option Json}
    (exact : DecodesExactly report grammar) (injective : Function.Injective grammar.shown)
    (plain : ∀ elements, isError (grammar.shown elements) = false) :
    DecodesLosslessly report grammar := by
  have reencodes : ∀ data elements, report data = some (grammar.shown elements) →
      grammar.encode elements = data := by
    intro data elements shown
    obtain ⟨others, -, written, same⟩ := (exact data _).mp ⟨shown, plain elements⟩
    rw [injective same, written]
  refine ⟨exact, reencodes, ?_⟩
  intro data other value shown shown' noError
  obtain ⟨elements, -, written, rfl⟩ := (exact data value).mp ⟨shown, noError⟩
  rw [written, reencodes other elements shown']

/-- A decoder that inverts the encoding, and shows different elements differently, loses nothing. -/
theorem losslessly_of_inverts (known : decoder? utf8 extType = some (grammar.shown <$> action))
    (inverts : Inverts action grammar.fits grammar.encode) (covers : caught.Covers action)
    (injective : Function.Injective grammar.shown)
    (plain : ∀ elements, isError (grammar.shown elements) = false) :
    DecodesLosslessly (decodeExtension utf8 extType) grammar :=
  (decodesExactly_of_inverts known inverts covers plain).losslessly injective plain

/-! ## Readers that raise only what is caught -/

/-- Reading past the end raises an error of the list. -/
theorem covers_read (n : Nat) : caught.Covers (ByteReader.read n) := by
  apply caught_chained.covers_bind caught_chained.covers_get
  intro self
  apply caught_chained.covers_bind (covers_check (by decide))
  intro _
  apply caught_chained.covers_bind (Exits.covers_modify fun _ => trivial)
  exact fun _ => caught_chained.covers_pure _

/-- One octet is read as a number. -/
theorem covers_readUint8 : caught.Covers readUint8 :=
  caught_chained.covers_bind (covers_read 1) fun _ => caught_chained.covers_pure _

/-- Two octets are read as a number. -/
theorem covers_readUint16 : caught.Covers readUint16 :=
  caught_chained.covers_bind (covers_read 2) fun _ => caught_chained.covers_pure _

/-- Lengths are only asked for in one or two octets. -/
theorem covers_readVector (known : lengthBytes = 1 ∨ lengthBytes = 2) :
    caught.Covers (readVector lengthBytes) := by
  rcases known with rfl | rfl
  · exact caught_chained.covers_bind covers_readUint8 covers_read
  · exact caught_chained.covers_bind covers_readUint16 covers_read

/-- The rest of a payload is always there. -/
theorem covers_readRemaining : caught.Covers readRemaining :=
  caught_chained.covers_bind caught_chained.covers_get fun _ => covers_read _

/-- Elements are read until nothing is left. -/
theorem covers_readAll (covers : caught.Covers element) (turns : Nat) :
    caught.Covers (readAll element turns) := by
  induction turns with
  | zero => exact caught_chained.covers_pure _
  | succ turns ih =>
    apply caught_chained.covers_bind caught_chained.covers_get
    intro self
    apply Exits.covers_ite
    · intro _
      apply caught_chained.covers_bind covers
      intro first
      exact caught_chained.covers_bind ih fun _ => caught_chained.covers_pure _
    · exact fun _ => caught_chained.covers_pure _

/-- A reader of its own raises what its elements raise. -/
theorem covers_within (covers : caught.Covers element) (blob : Bytes) :
    caught.Covers (within blob element) := by
  apply caught_chained.covers_fromExcept
  intro raised outcome _
  have ran : readAll element blob.length { data := blob } =
      (.error raised, (readAll element blob.length { data := blob }).2) := by
    rw [← outcome]
  have listed : raised ∈ extensionErrors := (covers_readAll covers _ _).raised ran
  exact listed

/-- Elements behind their common length. -/
theorem covers_elements (known : lengthBytes = 1 ∨ lengthBytes = 2)
    (covers : caught.Covers element) :
    caught.Covers (readVector lengthBytes >>= fun blob => within blob element) :=
  caught_chained.covers_bind (covers_readVector known) fun blob => covers_within covers blob

/-! ## The decoders one by one -/

/-- A number that is read with a key behind it. -/
def rawShare : ReaderM (Nat × Bytes) :=
  readUint16 >>= fun group => readVector 2 >>= fun keyExchange => pure (group, keyExchange)

/-- A type that is read with a name behind it. -/
def rawName : ReaderM (Nat × Bytes) :=
  readUint8 >>= fun nameType => readVector 2 >>= fun host => pure (nameType, host)

/-- Elements that are shown one by one are read first and shown then. -/
theorem decode_elements (shownOne : α → Json) (wrap : List Json → Json) (element : ReaderM α) :
    (do
      let values ← within (← readVector 2) (shownOne <$> element)
      return wrap values : ReaderM Json) =
      (fun elements => wrap (elements.map shownOne)) <$>
        (readVector 2 >>= fun blob => within blob element) := by
  simp only [within_map]
  simp only [map_eq_bind, bind_assoc_eq, pure_bind_eq]

/-- Key shares are read before they are shown. -/
theorem decodeKeyShare_eq :
    decodeKeyShare = shareList.shown <$> (readVector 2 >>= fun blob => within blob rawShare) := by
  have element : readKeyShare = shownShare <$> rawShare := by
    unfold readKeyShare rawShare
    simp only [map_eq_bind, bind_assoc_eq, pure_bind_eq]
    rfl
  unfold decodeKeyShare
  rw [element]
  exact decode_elements shownShare (fun shares => .object [("shares", .list shares)]) rawShare

/-- Server names are read before they are shown. -/
theorem decodeServerName_eq (utf8 : Bytes → Text) :
    decodeServerName utf8 =
      (nameList utf8).shown <$> (readVector 2 >>= fun blob => within blob rawName) := by
  have element : readServerName utf8 = shownName utf8 <$> rawName := by
    unfold readServerName rawName
    simp only [map_eq_bind, bind_assoc_eq, pure_bind_eq]
    rfl
  unfold decodeServerName
  rw [element]
  exact decode_elements (shownName utf8) (fun names => .object [("server_names", .list names)]) rawName

/-- A key share is a number and a vector. -/
theorem covers_rawShare : caught.Covers rawShare := by
  apply caught_chained.covers_bind covers_readUint16
  intro group
  exact caught_chained.covers_bind (covers_readVector (.inr rfl)) fun _ => caught_chained.covers_pure _

/-- A server name is an octet and a vector. -/
theorem covers_rawName : caught.Covers rawName := by
  apply caught_chained.covers_bind covers_readUint8
  intro nameType
  exact caught_chained.covers_bind (covers_readVector (.inr rfl)) fun _ => caught_chained.covers_pure _

/-- Key shares are read from their own encoding only. -/
theorem inverts_shares :
    Inverts (readVector 2 >>= fun blob => within blob rawShare) shareList.fits shareList.encode := by
  apply inverts_elements (.inr rfl) (inverts_readUint16.pair inverts_readVector_two)
  intro share _ empty
  exact encodeUint16_ne_nil share.1 (append_eq_nil_iff.mp empty).1

/-- Server names are read from their own encoding only. -/
theorem inverts_names : Inverts (readVector 2 >>= fun blob => within blob rawName)
    (nameList utf8).fits (nameList utf8).encode := by
  apply inverts_elements (.inr rfl) (inverts_readUint8.pair inverts_readVector_two)
  intro name _ empty
  cases (append_eq_nil_iff.mp empty).1

/-- A key share is told by its group and its key. -/
theorem shownShare_injective : Function.Injective shownShare := by
  intro ⟨group, key⟩ ⟨group', key'⟩ same
  simp only [shownShare, Json.object.injEq, cons.injEq, Prod.mk.injEq, Json.text.injEq, true_and,
    and_true] at same
  obtain ⟨sameGroup, -, sameKey⟩ := same
  have keys := Hex.decode_encode key
  rw [sameKey, Hex.decode_encode] at keys
  rw [describeIn_injective namedGroupNames sameGroup, Option.some.inj keys]

/-- A list of key shares is told by what is shown. -/
theorem shareList_injective : Function.Injective shareList.shown := by
  intro first second same
  simp only [shareList, Json.object.injEq, cons.injEq, Prod.mk.injEq, Json.list.injEq, true_and,
    and_true] at same
  exact map_injective_iff.mpr shownShare_injective same

/-- A list of protocols is told by what is shown. -/
theorem protocolList_injective : Function.Injective protocolList.shown := by
  intro first second same
  simp only [protocolList, shownProtocols, Json.object.injEq, cons.injEq, Prod.mk.injEq,
    Json.list.injEq, true_and, and_true] at same
  have texts : Function.Injective fun protocol : Bytes => Json.text (asText protocol) := by
    intro protocol other equal
    exact asText_injective (Json.text.inj equal)
  exact map_injective_iff.mpr texts same

/-- A limit is told by what is shown. -/
theorem singleLimit_injective : Function.Injective singleLimit.shown := by
  intro first second same
  simpa [singleLimit] using same

/-- Numbers under another name are no error. -/
theorem isError_shownNumbers (other : field ≠ "error") (names : Dict Nat String)
    (values : List Nat) : isError (shownNumbers field names values) = false := by
  simp [isError, shownNumbers, Json.field?, Dict.get?, other]

/-- Protocol identifiers are found in their own encoding only. -/
theorem parseAlpnProtocols_eq_ok {protocols : List Bytes} :
    parseAlpnProtocols data = .ok protocols ↔
      protocolList.fits protocols ∧ data = protocolList.encode protocols := by
  have valid := valid_start data
  have takes : ∀ protocol : Bytes, protocol.length < 2 ^ 8 → encodeVector 1 protocol ≠ [] := by
    intro protocol _ empty
    cases (append_eq_nil_iff.mp empty).1
  have step (last : ByteReader) :
      parseAlpnProtocols.readProtocols { data } = (.ok protocols, last) ↔
        protocolList.fits protocols ∧ data = protocolList.encode protocols ∧
          last.Valid ∧ last.data = data ∧ last.rest = [] := by
    simp only [parseAlpnProtocols.readProtocols, bind_eq_ok, get_eq_ok, raiseIf_eq_ok,
      inverts_readVector_two.eq_ok valid, within_eq_ok inverts_readVector_one takes, rest_start]
    constructor
    · rintro ⟨list, reached, ⟨short, reachedValid, same, ahead⟩, _, _, ⟨rfl, rfl⟩, _, _, ⟨done, rfl⟩,
        fit, rfl, rfl⟩
      have ended : reached.rest = [] := by
        by_contra some
        exact done (hasMore_iff.mpr some)
      rw [ended, append_nil] at ahead
      exact ⟨⟨fit, short⟩, ahead, reachedValid, same, ended⟩
    · rintro ⟨⟨fit, short⟩, ahead, lastValid, same, ended⟩
      refine ⟨_, last, ⟨short, lastValid, same, ?_⟩, last, last, ⟨rfl, rfl⟩, (), last, ⟨?_, rfl⟩, fit,
        rfl, rfl⟩
      · rw [ended, append_nil]
        exact ahead
      · rw [hasMore_iff, ended]
        simp
  constructor
  · intro returned
    have ran : parseAlpnProtocols.readProtocols { data } =
        (.ok protocols, (parseAlpnProtocols.readProtocols { data }).2) := by
      rw [← returned]
      rfl
    obtain ⟨fit, written, -⟩ := (step _).mp ran
    exact ⟨fit, written⟩
  · rintro ⟨fit, written⟩
    -- The reader ends behind the last octet.
    have ran := (step { data, pos := data.length }).mpr
      ⟨fit, written, Nat.le_refl _, rfl, drop_length⟩
    rw [parseAlpnProtocols, ran]

/-- The protocols are read by a reader of their own. -/
theorem tame_decodeAlpn : Tame decodeAlpn := by
  have protocols : caught.Covers parseAlpnProtocols.readProtocols := by
    apply caught_chained.covers_bind (covers_readVector (.inr rfl))
    intro list
    exact covers_atEnd (by decide) (covers_within (covers_readVector (.inl rfl)) list)
  have shape : decodeAlpn =
      shownProtocols <$> (readRemaining >>= fun payload => fromExcept (parseAlpnProtocols payload)) := by
    unfold decodeAlpn
    simp only [map_eq_bind, bind_assoc_eq]
    rfl
  rw [shape]
  apply tame_map
  · apply caught_chained.covers_bind covers_readRemaining
    intro payload
    apply caught_chained.covers_fromExcept
    intro raised outcome _
    have ran : parseAlpnProtocols.readProtocols { data := payload } =
        (.error raised, (parseAlpnProtocols.readProtocols { data := payload }).2) := by
      rw [← outcome]
      rfl
    have listed : raised ∈ extensionErrors := (protocols _).raised ran
    exact listed
  · intro protocols
    simp [isError, shownProtocols, Json.field?, Dict.get?]

/-- The protocols of a payload are those it encodes. -/
theorem decodesExactly_alpn : DecodesExactly
    (decodeExtension utf8 applicationLayerProtocolNegotiation) protocolList := by
  intro data value
  rw [decodeExtension_shows rfl tame_decodeAlpn, decodeWhole_alpn]
  constructor
  · intro returned
    cases outcome : parseAlpnProtocols data with
    | error message =>
      rw [outcome] at returned
      cases returned
    | ok protocols =>
      rw [outcome] at returned
      obtain ⟨fit, written⟩ := parseAlpnProtocols_eq_ok.mp outcome
      exact ⟨protocols, fit, written, (Except.ok.inj returned).symm⟩
  · rintro ⟨protocols, fit, written, rfl⟩
    rw [parseAlpnProtocols_eq_ok.mpr ⟨fit, written⟩]
    rfl

/-- A limit with the check that nothing follows it. -/
def rawLimit : ReaderM Nat := do
  let limit ← readUint16
  let self ← get
  raiseIf (self.hasMore = true) "record_size_limit must contain exactly 2 bytes"
  return limit

/-- The limit is read before it is shown. -/
theorem decodeRecordSizeLimit_eq : decodeRecordSizeLimit = singleLimit.shown <$> rawLimit := by
  unfold decodeRecordSizeLimit rawLimit
  simp only [map_eq_bind, bind_assoc_eq, pure_bind_eq]
  rfl

/-- The limit has a check of its own behind it. -/
theorem tame_decodeRecordSizeLimit : Tame decodeRecordSizeLimit := by
  rw [decodeRecordSizeLimit_eq]
  apply tame_map
  · apply caught_chained.covers_bind covers_readUint16
    intro limit
    exact covers_atEnd (by decide) (caught_chained.covers_pure _)
  · intro limit
    simp [isError, singleLimit, Json.field?, Dict.get?]

/-- The check of the limit and the check of every payload are the same. -/
theorem decodesExactly_recordSizeLimit :
    DecodesExactly (decodeExtension utf8 recordSizeLimit) singleLimit := by
  intro data value
  rw [decodeExtension_shows rfl tame_decodeRecordSizeLimit, ← decodeWhole_eq_ok inverts_readUint16,
    decodeRecordSizeLimit_eq, decodeWhole_map, decodeWhole_map]
  simp only [rawLimit, bind_apply]
  rcases readUint16 { data } with ⟨message | limit, next⟩
  · rfl
  · by_cases more : next.hasMore = true
    · simp [more]
    · simp [more]

/-- Padding may be anything. -/
theorem tame_decodePadding : Tame decodePadding := by
  have shape : decodePadding = (fun padding : Bytes => Json.object [
      ("length", .number padding.length),
      ("all_zero", .bool (padding.all (· = 0)))]) <$> readRemaining := rfl
  rw [shape]
  apply tame_map covers_readRemaining
  intro padding
  simp [isError, Json.field?, Dict.get?]

/-- So may a payload that should be empty. -/
theorem tame_decodeEmpty : Tame decodeEmpty := by
  have shape : decodeEmpty = (fun payload : Bytes => Json.object [
      ("present", .bool true), ("unexpected_bytes", .number payload.length)]) <$> readRemaining := rfl
  rw [shape]
  apply tame_map covers_readRemaining
  intro payload
  simp [isError, Json.field?, Dict.get?]

/-- Numbers are read behind a length of one or two octets. -/
theorem tame_decodeUint16Vector (other : field ≠ "error")
    (known : lengthBytes = 1 ∨ lengthBytes = 2) (names : Dict Nat String) :
    Tame (decodeUint16Vector field lengthBytes names) := by
  rw [decodeUint16Vector_eq]
  exact tame_map (covers_elements known covers_readUint16) (isError_shownNumbers other names)

/-- Octets are read behind a length of one octet. -/
theorem tame_decodeOctetVector (other : field ≠ "error") (names : Dict Nat String) :
    Tame (decodeOctetVector field names) := by
  rw [decodeOctetVector_eq]
  apply tame_map
  · exact caught_chained.composed_covers.map (covers_readVector (.inl rfl))
  · exact isError_shownNumbers other names

/-- Key shares are no error. -/
theorem isError_shareList (shares : List (Nat × Bytes)) : isError (shareList.shown shares) = false := by
  simp [isError, shareList, Json.field?, Dict.get?]

/-- Server names are no error. -/
theorem isError_nameList (names : List (Nat × Bytes)) :
    isError ((nameList utf8).shown names) = false := by
  simp [isError, nameList, Json.field?, Dict.get?]

/-- Every decoder in the table is tame. -/
theorem tame_of_known (known : decoder? utf8 extType = some decoder) :
    Tame decoder := by
  have listed := Dict.mem_of_get? known
  simp only [mem_cons, Prod.mk.injEq, not_mem_nil, or_false] at listed
  rcases listed with ⟨-, rfl⟩ | ⟨-, rfl⟩ | ⟨-, rfl⟩ | ⟨-, rfl⟩ | ⟨-, rfl⟩ | ⟨-, rfl⟩ | ⟨-, rfl⟩ |
    ⟨-, rfl⟩ | ⟨-, rfl⟩ | ⟨-, rfl⟩ | ⟨-, rfl⟩ | ⟨-, rfl⟩ | ⟨-, rfl⟩ | ⟨-, rfl⟩
  · rw [decodeServerName_eq]
    exact tame_map (covers_elements (.inr rfl) covers_rawName) isError_nameList
  · exact tame_decodeUint16Vector (by decide) (.inr rfl) _
  · exact tame_decodeOctetVector (by decide) _
  · exact tame_decodeUint16Vector (by decide) (.inr rfl) _
  · exact tame_decodeUint16Vector (by decide) (.inr rfl) _
  · exact tame_decodeAlpn
  · exact tame_decodePadding
  · exact tame_decodeEmpty
  · exact tame_decodeEmpty
  · exact tame_decodeUint16Vector (by decide) (.inl rfl) _
  · exact tame_decodeRecordSizeLimit
  · exact tame_decodeUint16Vector (by decide) (.inl rfl) _
  · exact tame_decodeOctetVector (by decide) _
  · rw [decodeKeyShare_eq]
    exact tame_map (covers_elements (.inr rfl) covers_rawShare) isError_shareList

/-- Whatever the payload, what a decoder raises is caught and shown. -/
theorem decodeExtension_total (utf8 : Bytes → Text) (extType : Nat) (data : Bytes) :
    decodeExtension utf8 extType data = none ∨
      (∃ value, decodeExtension utf8 extType data = some value ∧ isError value = false) ∨
      ∃ message ∈ extensionErrors, decodeExtension utf8 extType data = some (shownError message) := by
  cases known : decoder? utf8 extType with
  | none =>
    left
    rw [decodeExtension, known]
    rfl
  | some decoder =>
    right
    have tame := tame_decodeWhole (tame_of_known known)
    rw [decodeExtension_eq known]
    rcases outcome : decodeWhole decoder { data } with ⟨message | decoded, reached⟩
    · exact .inr ⟨message, tame.raised _ _ _ outcome, rfl⟩
    · exact .inl ⟨decoded, rfl, tame.returned _ _ _ outcome⟩

/-- The report on a list of numbers loses nothing. -/
theorem losslessly_numbers
    (known : decoder? utf8 extType = some (decodeUint16Vector field lengthBytes names))
    (width : lengthBytes = 1 ∨ lengthBytes = 2) (other : field ≠ "error") :
    DecodesLosslessly (decodeExtension utf8 extType) (numberList lengthBytes field names) := by
  rw [decodeUint16Vector_eq] at known
  exact losslessly_of_inverts known (inverts_readValues width)
    (covers_elements width covers_readUint16) (shownNumbers_injective field names)
    (isError_shownNumbers other names)

/-- The report on a list of octets loses nothing. -/
theorem losslessly_octets (known : decoder? utf8 extType = some (decodeOctetVector field names))
    (other : field ≠ "error") :
    DecodesLosslessly (decodeExtension utf8 extType) (octetList field names) := by
  rw [decodeOctetVector_eq] at known
  exact losslessly_of_inverts known inverts_readOctets
    (caught_chained.composed_covers.map (covers_readVector (.inl rfl)))
    (shownNumbers_injective field names) (isError_shownNumbers other names)

/-- Server names are decoded exactly, but their octets may be lost as text. -/
theorem exactly_names (utf8 : Bytes → Text) :
    DecodesExactly (decodeExtension utf8 serverName) (nameList utf8) := by
  have known : decoder? utf8 serverName = some (decodeServerName utf8) := rfl
  rw [decodeServerName_eq] at known
  exact decodesExactly_of_inverts known inverts_names (covers_elements (.inr rfl) covers_rawName)
    isError_nameList

/-- The report on key shares loses nothing. -/
theorem losslessly_shares (utf8 : Bytes → Text) :
    DecodesLosslessly (decodeExtension utf8 keyShare) shareList := by
  have known : decoder? utf8 keyShare = some decodeKeyShare := rfl
  rw [decodeKeyShare_eq] at known
  exact losslessly_of_inverts known inverts_shares (covers_elements (.inr rfl) covers_rawShare)
    shareList_injective isError_shareList

/--
Every listed extension is decoded exactly, and all but the server name without a loss.

Whatever the type and the payload, an error is shown and none escapes.
-/
theorem decodeExtension_exact (utf8 : Bytes → Text) :
    DecodesExactly (decodeExtension utf8 serverName) (nameList utf8) ∧
    DecodesLosslessly (decodeExtension utf8 supportedGroups)
      (numberList 2 "groups" namedGroupNames) ∧
    DecodesLosslessly (decodeExtension utf8 ecPointFormats)
      (octetList "formats" ecPointFormatNames) ∧
    DecodesLosslessly (decodeExtension utf8 signatureAlgorithms)
      (numberList 2 "algorithms" signatureSchemeNames) ∧
    DecodesLosslessly (decodeExtension utf8 signatureAlgorithmsCert)
      (numberList 2 "algorithms" signatureSchemeNames) ∧
    DecodesLosslessly (decodeExtension utf8 applicationLayerProtocolNegotiation)
      protocolList ∧
    DecodesLosslessly (decodeExtension utf8 compressCertificate)
      (numberList 1 "algorithms" certificateCompressionAlgorithmNames) ∧
    DecodesLosslessly (decodeExtension utf8 recordSizeLimit) singleLimit ∧
    DecodesLosslessly (decodeExtension utf8 supportedVersions)
      (numberList 1 "versions" tlsVersionNames) ∧
    DecodesLosslessly (decodeExtension utf8 pskKeyExchangeModes)
      (octetList "modes" pskKeyExchangeModeNames) ∧
    DecodesLosslessly (decodeExtension utf8 keyShare) shareList ∧
    ∀ extType data, decodeExtension utf8 extType data = none ∨
      (∃ value, decodeExtension utf8 extType data = some value ∧ isError value = false) ∨
      ∃ message ∈ extensionErrors,
        decodeExtension utf8 extType data = some (shownError message) := by
  refine ⟨exactly_names utf8, ?_, ?_, ?_, ?_, ?_, ?_, ?_, ?_, ?_, losslessly_shares utf8,
    decodeExtension_total utf8⟩
  · exact losslessly_numbers rfl (.inr rfl) (by decide)
  · exact losslessly_octets rfl (by decide)
  · exact losslessly_numbers rfl (.inr rfl) (by decide)
  · exact losslessly_numbers rfl (.inr rfl) (by decide)
  · apply decodesExactly_alpn.losslessly protocolList_injective
    intro protocols
    simp [isError, protocolList, shownProtocols, Json.field?, Dict.get?]
  · exact losslessly_numbers rfl (.inl rfl) (by decide)
  · apply decodesExactly_recordSizeLimit.losslessly singleLimit_injective
    intro limit
    simp [isError, singleLimit, Json.field?, Dict.get?]
  · exact losslessly_numbers rfl (.inl rfl) (by decide)
  · exact losslessly_octets rfl (by decide)

/-- A group behind its length is shown, and with an octet more the payload is an error. -/
example : (decodeExtension (fun _ => []) supportedGroups [0, 2, 0, 0x1D]).map isError =
      some false ∧
    (decodeExtension (fun _ => []) supportedGroups [0, 2, 0, 0x1D, 0]).map isError =
      some true := by
  decide

end SolveTls
