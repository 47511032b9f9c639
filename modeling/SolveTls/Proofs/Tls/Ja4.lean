import Mathlib.Data.List.Forall2
import Mathlib.Data.Option.Basic
import SolveTls.Proofs.Tls.Ja3

/-! What the JA4 fingerprint tells about a hello, and what it leaves out. -/

namespace SolveTls

open Fallible ByteReader ClientHello List Search

variable {texts others signatures : List Text} {extType lengthBytes : Nat}

/-! ## Sorted hex numbers -/

/-- A number can be read back from its hex digits, leading zeros or not. -/
theorem hexDigits_injective : Function.Injective hexDigits := by
  intro first second same
  have reads (value : Nat) : Digits.value 16 (hexDigits value) = value := by
    rw [hexDigits, Digits.value_zeros]
    exact (Digits.toDigits_spec (by decide) (by decide) value).2
  rw [← reads first, same, reads second]

/-- Texts of hex digits, none of them empty. -/
def HexTexts (texts : List Text) : Prop :=
  ∀ text ∈ texts, text ≠ [] ∧ ∀ char ∈ text, char ∈ Digits.alphabet

theorem hexTexts_map (values : List Nat) : HexTexts (values.map hexDigits) := by
  intro text member
  obtain ⟨value, -, rfl⟩ := mem_map.mp member
  refine ⟨?_, ?_⟩
  · intro empty
    exact Nat.toDigits_ne_nil (append_eq_nil_iff.mp empty).2
  · intro char written
    rcases mem_append.mp written with zero | digit
    · -- Only zeros are filled in.
      rw [(mem_replicate.mp zero).2]
      decide
    · exact (Digits.toDigits_spec (by decide) (by decide) value).1 char digit

theorem sortTexts_perm (texts : List Text) : (sortTexts texts).Perm texts :=
  mergeSort_perm texts _

/-- Sorting forgets the order and nothing else. -/
theorem sortTexts_eq_iff :
    sortTexts texts = sortTexts others ↔ texts.Perm others := by
  constructor
  · intro same
    exact (sortTexts_perm texts).symm.trans (same ▸ sortTexts_perm others)
  · intro perm
    -- Two sorted lists of the same texts are the same list.
    have sorted (list : List Text) : (sortTexts list).Pairwise (· ≤ ·) := by
      have ordered : (sortTexts list).Pairwise fun first second => decide (first ≤ second) = true := by
        apply pairwise_mergeSort
        · intro first second third
          simpa using le_trans
        · intro first second
          simpa using le_total first second
      exact ordered.imp of_decide_eq_true
    have both := ((sortTexts_perm texts).trans perm).trans (sortTexts_perm others).symm
    apply List.Perm.eq_of_pairwise _ (sorted texts) (sorted others) both
    intro first second _ _ below above
    exact le_antisymm below above

theorem hexTexts_sorted (values : List Nat) : HexTexts (sortTexts (values.map hexDigits)) := by
  intro text member
  exact hexTexts_map values text ((sortTexts_perm _).mem_iff.mp member)

/-- The sorted digits tell which numbers there are, and how often. -/
theorem sorted_hexDigits_eq_iff {values others : List Nat} :
    sortTexts (values.map hexDigits) = sortTexts (others.map hexDigits) ↔ values.Perm others := by
  rw [sortTexts_eq_iff]
  exact map_perm_map_iff hexDigits_injective

theorem sorted_hexDigits_eq_nil {values : List Nat} :
    sortTexts (values.map hexDigits) = [] ↔ values = [] := by
  have lengths := (sortTexts_perm (values.map hexDigits)).length_eq
  rw [length_map] at lengths
  rw [← length_eq_zero_iff, lengths, length_eq_zero_iff]

/-! ## The strings that are hashed -/

theorem HexTexts.join_inj (hex : HexTexts texts) (hex' : HexTexts others) :
    join [','] texts = join [','] others ↔ texts = others := by
  apply join_inj_of_filled
  intro text member
  have digits : text ≠ [] ∧ ∀ char ∈ text, char ∈ Digits.alphabet := by
    rcases mem_append.mp member with member | member
    · exact hex text member
    · exact hex' text member
  refine ⟨digits.1, ?_⟩
  intro comma
  exact absurd (digits.2 ',' comma) (by decide)

theorem HexTexts.underscore_notMem (hex : HexTexts texts) :
    '_' ∉ join [','] texts := by
  apply not_mem_join (by decide)
  intro text member underscore
  exact absurd ((hex text member).2 '_' underscore) (by decide)

/-- The ciphers that are hashed tell which ciphers there are, in no order. -/
theorem ja4BInput_eq_iff {a b : ClientHello} :
    ja4BInput a = ja4BInput b ↔ (noGrease a.cipherSuites).Perm (noGrease b.cipherSuites) := by
  have joined : join [','] (ja4Ciphers a) = join [','] (ja4Ciphers b) ↔
      ja4Ciphers a = ja4Ciphers b :=
    (hexTexts_sorted _).join_inj (hexTexts_sorted _)
  rw [← sorted_hexDigits_eq_iff]
  show ja4BInput a = ja4BInput b ↔ ja4Ciphers a = ja4Ciphers b
  unfold ja4BInput
  by_cases empty : ja4Ciphers a = []
  · by_cases empty' : ja4Ciphers b = []
    · simp [empty, empty']
    · simp [empty, empty']
  · by_cases empty' : ja4Ciphers b = []
    · simp [empty, empty']
    · simp [empty, empty', joined]

/-- The extensions with the signatures behind them, if there are any. -/
def signed (texts signatures : List Text) : Text :=
  if signatures = [] then join [','] texts
  else join [','] texts ++ ['_'] ++ join [','] signatures

/-- The underscore tells where the signatures begin. -/
theorem cut_signed (hex : HexTexts texts) :
    cut '_' (signed texts signatures) =
      (join [','] texts,
        if signatures = [] then none else some (join [','] signatures)) := by
  unfold signed
  by_cases empty : signatures = []
  · rw [if_pos empty, if_pos empty, cut_eq_none]
    exact ⟨rfl, hex.underscore_notMem⟩
  · rw [if_neg empty, if_neg empty, cut_eq_some]
    exact ⟨by simp, hex.underscore_notMem⟩

theorem signed_inj {signatures' : List Text} (hex : HexTexts texts) (hex' : HexTexts others)
    (hexSigned : HexTexts signatures) (hexSigned' : HexTexts signatures') :
    signed texts signatures = signed others signatures' ↔
      texts = others ∧ signatures = signatures' := by
  constructor
  · intro same
    have cuts := congrArg (cut '_') same
    rw [cut_signed hex, cut_signed hex', Prod.mk.injEq, hex.join_inj hex'] at cuts
    refine ⟨cuts.1, ?_⟩
    by_cases empty : signatures = []
    · by_cases empty' : signatures' = []
      · rw [empty, empty']
      · simp [empty, empty'] at cuts
    · by_cases empty' : signatures' = []
      · simp [empty, empty'] at cuts
      · rw [if_neg empty, if_neg empty', Option.some_inj, hexSigned.join_inj hexSigned'] at cuts
        exact cuts.2
  · rintro ⟨rfl, rfl⟩
    rfl

/-- The extension types that are hashed, before they are sorted. -/
def hashedTypes (hello : ClientHello) : List Nat :=
  (ja4Extensions hello).filter (· ∉ ja4UnhashedExtensions)

theorem ja4CInput_eq (hello : ClientHello) :
    ja4CInput hello =
      if hashedTypes hello = [] then none
      else some (signed (ja4Hashed hello) (ja4Signatures hello)) := by
  have empty : ja4Hashed hello = [] ↔ hashedTypes hello = [] := sorted_hexDigits_eq_nil
  unfold ja4CInput signed
  simp only [empty]

/-- What is hashed into the last part tells which types there are, in no order, and the signature
algorithms in theirs. -/
theorem ja4CInput_eq_iff {a b : ClientHello} :
    ja4CInput a = ja4CInput b ↔ (hashedTypes a).Perm (hashedTypes b) ∧
      (hashedTypes a ≠ [] →
        noGrease a.signatureAlgorithms = noGrease b.signatureAlgorithms) := by
  have types : ja4Hashed a = ja4Hashed b ↔ (hashedTypes a).Perm (hashedTypes b) :=
    sorted_hexDigits_eq_iff
  have signatures : ja4Signatures a = ja4Signatures b ↔
      noGrease a.signatureAlgorithms = noGrease b.signatureAlgorithms :=
    (map_injective_iff.mpr hexDigits_injective).eq_iff
  have inputs : signed (ja4Hashed a) (ja4Signatures a) = signed (ja4Hashed b) (ja4Signatures b) ↔
      ja4Hashed a = ja4Hashed b ∧ ja4Signatures a = ja4Signatures b :=
    signed_inj (hexTexts_sorted _) (hexTexts_sorted _) (hexTexts_map _) (hexTexts_map _)
  rw [types, signatures] at inputs
  rw [ja4CInput_eq, ja4CInput_eq]
  by_cases empty : hashedTypes a = []
  · by_cases empty' : hashedTypes b = []
    · simp [empty, empty']
    · simp [empty, empty']
  · by_cases empty' : hashedTypes b = []
    · simp [empty, empty']
    · simp [empty, empty', inputs]

/-! ## Hellos that differ in order and reserved values -/

/-- The extensions whose type is not reserved. -/
def ClientHello.knownExtensions (hello : ClientHello) : List Extension :=
  hello.extensions.filter fun extension => extension.type ∉ greaseValues

/-- The identifiers fit behind their lengths, and all of them behind the common one. -/
def ProtocolsFit (protocols : List Bytes) : Prop :=
  (∀ protocol ∈ protocols, protocol.length < 2 ^ 8) ∧
    (protocols.flatMap (encodeVector 1)).length < 2 ^ 16

def encodeProtocols (protocols : List Bytes) : Bytes :=
  encodeVector 2 (protocols.flatMap (encodeVector 1))

/-- The vectors of numbers that JA4 looks into, with the octets of their lengths. -/
def ja4Vectors : List (Nat × Nat) :=
  [(ExtensionType.signatureAlgorithms, 2), (ExtensionType.supportedVersions, 1)]

theorem mem_ja4Vectors : (extType, lengthBytes) ∈ ja4Vectors ↔
    (extType = ExtensionType.signatureAlgorithms ∧ lengthBytes = 2) ∨
      (extType = ExtensionType.supportedVersions ∧ lengthBytes = 1) := by
  simp [ja4Vectors]

/-- An extension stays, or the reserved values of its vector change. -/
inductive Regreased : Extension → Extension → Prop
  | same (extension : Extension) : Regreased extension extension
  | numbers {extType lengthBytes : Nat} {values others : List Nat}
      (known : (extType, lengthBytes) ∈ ja4Vectors) (fit : NumbersFit lengthBytes values)
      (fit' : NumbersFit lengthBytes others) (kept : noGrease values = noGrease others) :
      Regreased { type := extType, data := encodeNumbers lengthBytes values }
        { type := extType, data := encodeNumbers lengthBytes others }
  | protocols {protocols others : List Bytes} (fit : ProtocolsFit protocols)
      (fit' : ProtocolsFit others) (kept : noGreaseProtocols protocols = noGreaseProtocols others) :
      Regreased
        { type := ExtensionType.applicationLayerProtocolNegotiation
          data := encodeProtocols protocols }
        { type := ExtensionType.applicationLayerProtocolNegotiation
          data := encodeProtocols others }

/-- Two hellos that differ in the order of ciphers and extensions and in reserved values. -/
structure SameButOrder (a b : ClientHello) : Prop where
  version : a.version = b.version
  ciphers : (noGrease a.cipherSuites).Perm (noGrease b.cipherSuites)
  extensions : ∃ moved, a.knownExtensions.Perm moved ∧
    List.Forall₂ Regreased moved b.knownExtensions

theorem Regreased.type_eq {first second : Extension} (changed : Regreased first second) :
    first.type = second.type := by
  cases changed <;> rfl

/-- Only the payloads change. -/
theorem map_type_of_regreased {extensions others : List Extension}
    (changed : List.Forall₂ Regreased extensions others) :
    extensions.map Extension.type = others.map Extension.type := by
  induction changed with
  | nil => rfl
  | cons head _ ih => rw [map_cons, map_cons, head.type_eq, ih]

/-- Well-formed protocol identifiers are read as they are. -/
theorem protocolValues_encodeProtocols {protocols : List Bytes} (fit : ProtocolsFit protocols) :
    protocolValues (encodeProtocols protocols) = protocols := by
  have valid := valid_start (encodeProtocols protocols)
  have ahead : rest { data := encodeProtocols protocols } =
      encodeVector 2 (protocols.flatMap (encodeVector 1)) ++ [] :=
    (append_nil _).symm
  have takes : ∀ protocol : Bytes, protocol.length < 2 ^ 8 → encodeVector 1 protocol ≠ [] := by
    intro protocol _ empty
    have width := Octets.length_toBigEndian 1 protocol.length
    rw [(append_eq_nil_iff.mp empty).1] at width
    cases width
  obtain ⟨reached, reachedValid, same, behind⟩ := exists_behind valid ahead
  have done : ¬ reached.hasMore = true := by
    rw [hasMore_iff, behind]
    simp
  have ran : parseAlpnProtocols.readProtocols { data := encodeProtocols protocols } =
      (.ok protocols, reached) := by
    have listed := (inverts_readVector_two.eq_ok valid).mpr
      ⟨fit.2, reachedValid, same, ahead.trans (by rw [behind])⟩
    have elements : within (protocols.flatMap (encodeVector 1)) (readVector 1) reached =
        (.ok protocols, reached) :=
      (within_eq_ok inverts_readVector_one takes).mpr ⟨fit.1, rfl, rfl⟩
    rw [parseAlpnProtocols.readProtocols]
    simp only [bind_eq_ok, get_eq_ok, raiseIf_eq_ok]
    exact ⟨_, reached, listed, reached, reached, ⟨rfl, rfl⟩, (), reached, ⟨done, rfl⟩, elements⟩
  rw [protocolValues, parseAlpnProtocols, ran]

/-- A type that is not reserved is looked up among the extensions that are not. -/
theorem extensionData_known (known : extType ∉ greaseValues) (hello : ClientHello) :
    hello.extensionData extType =
      (hello.knownExtensions.find? fun extension => extension.type = extType).map
        Extension.data := by
  rw [extensionData, knownExtensions, List.find?_filter]
  congr 2
  funext extension
  by_cases found : extension.type = extType
  · simp [found, known]
  · simp [found]

/-- Where every type occurs once, the order of the extensions does not matter for looking up. -/
theorem find?_of_perm {extensions others : List Extension} (perm : extensions.Perm others)
    (distinct : (extensions.map Extension.type).Nodup) :
    extensions.find? (fun extension => extension.type = extType) =
      others.find? fun extension => extension.type = extType := by
  -- The induction is on the permutation; only neighbours that swap have to differ.
  induction perm with
  | nil => rfl
  | cons extension _ ih =>
    rw [map_cons, nodup_cons] at distinct
    rw [List.find?_cons, List.find?_cons, ih distinct.2]
  | swap first second rest =>
    have differ : second.type ≠ first.type := by
      intro same
      simp [same] at distinct
    by_cases found : first.type = extType
    · have other : second.type ≠ extType := by
        intro same
        exact differ (same.trans found.symm)
      simp [found, other]
    · simp only [List.find?_cons, found, decide_false]
  | trans first _ ih ih' =>
    have middle := (first.map Extension.type).nodup_iff.mp distinct
    rw [ih distinct, ih' middle]

/-- Changing reserved values in the vectors leaves every extension in its place. -/
theorem find?_of_regreased {extensions others : List Extension}
    (changed : List.Forall₂ Regreased extensions others) :
    Option.Rel Regreased (extensions.find? fun extension => extension.type = extType)
      (others.find? fun extension => extension.type = extType) := by
  induction changed with
  | nil => exact .none
  | @cons first second _ _ head _ ih =>
    rw [List.find?_cons, List.find?_cons, head.type_eq]
    by_cases found : second.type = extType
    · simp only [found, decide_true]
      exact .some head
    · simp only [found, decide_false]
      exact ih

section

variable {a b : ClientHello}

section Reordered

variable (same : SameButOrder a b)

include same

section Distinct

variable (distinct : a.extensionTypes.Nodup)

include distinct

/-- What two such hellos say in an extension differs in reserved values only. -/
theorem SameButOrder.find? (extType : Nat) :
    Option.Rel Regreased (a.knownExtensions.find? fun extension => extension.type = extType)
      (b.knownExtensions.find? fun extension => extension.type = extType) := by
  obtain ⟨moved, perm, changed⟩ := same.extensions
  have once : (a.knownExtensions.map Extension.type).Nodup :=
    (filter_sublist.map Extension.type).nodup distinct
  rw [find?_of_perm perm once]
  exact find?_of_regreased changed

/-- What does not depend on reserved values is the same for both, wherever it is looked up. -/
theorem SameButOrder.lookup {β : Type} (known : extType ∉ greaseValues) (absent : β)
    {view : Bytes → β}
    (kept : ∀ first second, Regreased first second → first.type = extType →
      view first.data = view second.data) :
    (a.extensionData extType).elim absent view = (b.extensionData extType).elim absent view := by
  have related := same.find? distinct extType
  rw [extensionData_known known, extensionData_known known]
  cases found : a.knownExtensions.find? fun extension => extension.type = extType with
  | none =>
    rw [found] at related
    cases other : b.knownExtensions.find? fun extension => extension.type = extType with
    | none => rfl
    | some second =>
      rw [other] at related
      cases related
  | some first =>
    have type : first.type = extType := by simpa using List.find?_some found
    rw [found] at related
    cases other : b.knownExtensions.find? fun extension => extension.type = extType with
    | none =>
      rw [other] at related
      cases related
    | some second =>
      rw [other] at related
      cases related with
      | some changed => exact kept first second changed type

/-- The vectors of numbers differ in reserved values only. -/
theorem SameButOrder.uint16Vector (listed : (extType, lengthBytes) ∈ ja4Vectors) :
    noGrease (a.uint16Vector extType lengthBytes) =
      noGrease (b.uint16Vector extType lengthBytes) := by
  have known : extType ∉ greaseValues := by
    rcases mem_ja4Vectors.mp listed with ⟨rfl, -⟩ | ⟨rfl, -⟩ <;> decide
  have width : lengthBytes = 1 ∨ lengthBytes = 2 := by
    rcases mem_ja4Vectors.mp listed with ⟨-, rfl⟩ | ⟨-, rfl⟩ <;> simp
  have viewed (hello : ClientHello) : noGrease (hello.uint16Vector extType lengthBytes) =
      (hello.extensionData extType).elim [] fun data => noGrease (uint16Values lengthBytes data) := by
    unfold ClientHello.uint16Vector
    cases hello.extensionData extType <;> rfl
  rw [viewed, viewed]
  apply same.lookup distinct known
  intro first second changed type
  cases changed with
  | same => rfl
  | @numbers _ octets values others listed' fit fit' kept =>
    -- The type fixes how many octets the length has.
    have octets_eq : octets = lengthBytes := by
      cases type
      rcases mem_ja4Vectors.mp listed with ⟨rfl, rfl⟩ | ⟨rfl, rfl⟩ <;>
        rcases mem_ja4Vectors.mp listed' with ⟨same, rfl⟩ | ⟨same, rfl⟩ <;>
        first | rfl | exact absurd same (by decide)
    subst octets_eq
    have read := uint16Values_encodeNumbers width fit []
    have read' := uint16Values_encodeNumbers width fit' []
    rw [append_nil] at read read'
    show noGrease (uint16Values octets (encodeNumbers octets values)) =
      noGrease (uint16Values octets (encodeNumbers octets others))
    rw [read, read', kept]
  | protocols =>
    rcases mem_ja4Vectors.mp listed with ⟨rfl, -⟩ | ⟨rfl, -⟩ <;> cases type

/-- The protocol identifiers differ in reserved ones only. -/
theorem SameButOrder.alpnProtocols :
    noGreaseProtocols a.alpnProtocols = noGreaseProtocols b.alpnProtocols := by
  have viewed (hello : ClientHello) : noGreaseProtocols hello.alpnProtocols =
      (hello.extensionData ExtensionType.applicationLayerProtocolNegotiation).elim []
        fun data => noGreaseProtocols (protocolValues data) := by
    unfold ClientHello.alpnProtocols
    cases hello.extensionData ExtensionType.applicationLayerProtocolNegotiation <;> rfl
  rw [viewed, viewed]
  apply same.lookup distinct (by decide)
  intro first second changed type
  cases changed with
  | same => rfl
  | numbers listed =>
    -- Neither of those vectors holds protocol identifiers.
    rcases mem_ja4Vectors.mp listed with ⟨rfl, -⟩ | ⟨rfl, -⟩ <;> cases type
  | @protocols protocols others fit fit' kept =>
    show noGreaseProtocols (protocolValues (encodeProtocols protocols)) =
      noGreaseProtocols (protocolValues (encodeProtocols others))
    rw [protocolValues_encodeProtocols fit, protocolValues_encodeProtocols fit', kept]

/-- Both name a server, or neither. -/
theorem SameButOrder.serverName :
    a.extensionData ExtensionType.serverName ≠ none ↔
      b.extensionData ExtensionType.serverName ≠ none := by
  have known : ExtensionType.serverName ∉ greaseValues := by decide
  have present (hello : ClientHello) : hello.extensionData ExtensionType.serverName ≠ none ↔
      (hello.extensionData ExtensionType.serverName).elim false (fun _ => true) = true := by
    cases hello.extensionData ExtensionType.serverName <;> simp
  rw [present, present, same.lookup distinct known false fun _ _ _ _ => rfl]

omit distinct in
/-- Both have the same types that are not reserved, in some order. -/
theorem SameButOrder.types : (ja4Extensions a).Perm (ja4Extensions b) := by
  have types (hello : ClientHello) :
      ja4Extensions hello = hello.knownExtensions.map Extension.type := by
    simp only [ja4Extensions, noGrease, extensionTypes, knownExtensions, filter_map]
    rfl
  obtain ⟨moved, perm, changed⟩ := same.extensions
  rw [types, types, ← map_type_of_regreased changed]
  exact perm.map Extension.type

/-- The first part does not depend on order or reserved values. -/
theorem SameButOrder.ja4A : ja4A a = ja4A b := by
  have versions : noGrease a.supportedVersions = noGrease b.supportedVersions :=
    same.uint16Vector distinct (mem_ja4Vectors.mpr (.inr ⟨rfl, rfl⟩))
  have version : ja4Version a = ja4Version b := by
    rw [ja4Version, ja4Version, versions, same.version]
  have ciphers : (ja4Ciphers a).length = (ja4Ciphers b).length := by
    rw [ja4Ciphers, ja4Ciphers, sorted_hexDigits_eq_iff.mpr same.ciphers]
  have alpn : ja4Alpn a.alpnProtocols = ja4Alpn b.alpnProtocols := by
    rw [ja4Alpn, ja4Alpn, same.alpnProtocols distinct]
  unfold SolveTls.ja4A
  simp only [version, ciphers, alpn, same.types.length_eq, same.serverName distinct]

end Distinct

end Reordered

end

/-- What is hashed tells ciphers and extensions up to their order and the signature algorithms in
theirs, and the whole fingerprint depends on neither that order nor reserved values. -/
theorem ja4_invariant (sha256 : Text → Text) (a b : ClientHello) :
    (ja4BInput a = ja4BInput b ↔ (noGrease a.cipherSuites).Perm (noGrease b.cipherSuites)) ∧
    (ja4CInput a = ja4CInput b ↔ (hashedTypes a).Perm (hashedTypes b) ∧
      (hashedTypes a ≠ [] →
        noGrease a.signatureAlgorithms = noGrease b.signatureAlgorithms)) ∧
    (a.extensionTypes.Nodup → SameButOrder a b →
      buildJa4 sha256 (some a) = buildJa4 sha256 (some b)) := by
  refine ⟨ja4BInput_eq_iff, ja4CInput_eq_iff, ?_⟩
  intro distinct same
  have hashedB : ja4BInput a = ja4BInput b := ja4BInput_eq_iff.mpr same.ciphers
  have signatures : noGrease a.signatureAlgorithms = noGrease b.signatureAlgorithms :=
    same.uint16Vector distinct (mem_ja4Vectors.mpr (.inl ⟨rfl, rfl⟩))
  have hashedC : ja4CInput a = ja4CInput b :=
    ja4CInput_eq_iff.mpr ⟨same.types.filter _, fun _ => signatures⟩
  simp only [buildJa4, Option.map_some, same.ja4A distinct, hashedB, hashedC]

/-- A hello with two ciphers, a server name and one signature algorithm. -/
def plainHello : ClientHello where
  version := 0x0303
  random := List.replicate 32 0
  sessionId := []
  cipherSuites := [0x1301, 0x1302]
  compressionMethods := [0]
  extensions := [
    { type := ExtensionType.serverName, data := [] },
    { type := ExtensionType.signatureAlgorithms, data := encodeNumbers 2 [0x0403] }]

/-- The same hello in another order, with reserved values everywhere. -/
def greasedHello : ClientHello where
  version := 0x0303
  random := List.replicate 32 0
  sessionId := []
  cipherSuites := [0x0A0A, 0x1302, 0x1301]
  compressionMethods := [0]
  extensions := [
    { type := ExtensionType.signatureAlgorithms, data := encodeNumbers 2 [0x2A2A, 0x0403] },
    { type := 0x1A1A, data := [0] },
    { type := ExtensionType.serverName, data := [] }]

/-- Both hellos have the same fingerprint. -/
theorem ja4_invariant_greased :
    buildJa4 id (some plainHello) = buildJa4 id (some greasedHello) := by
  apply (ja4_invariant id plainHello greasedHello).2.2
  · decide
  · refine ⟨rfl, ?_, ?_⟩
    · show [0x1301, 0x1302].Perm [0x1302, 0x1301]
      exact List.Perm.swap ..
    · have signatures : Regreased
          { type := ExtensionType.signatureAlgorithms, data := encodeNumbers 2 [0x0403] }
          { type := ExtensionType.signatureAlgorithms, data := encodeNumbers 2 [0x2A2A, 0x0403] } :=
        .numbers (by decide) ⟨by decide, by decide⟩ ⟨by decide, by decide⟩ (by decide)
      exact ⟨plainHello.extensions.reverse, (reverse_perm _).symm,
        .cons signatures (.cons (.same _) .nil)⟩

end SolveTls
