import SolveTls.Proofs.Wire.Reader

/-! The reader of a ClientHello inverts its encoding. -/

namespace SolveTls

open Fallible ByteReader List

namespace ClientHelloReader

variable {reader next : ByteReader} {hello : ClientHello} {body : Bytes}
variable {extensions : List Extension}

theorem inverts_readExtension : Inverts readExtension Extension.Fits Extension.encode := by
  intro reader next extension valid
  constructor
  · intro returned
    obtain ⟨type, reached, small, reachedValid, same, ahead, returned⟩ :=
      inverts_readUint16.ok_of_bind valid returned
    obtain ⟨data, last, short, lastValid, same', ahead', returned⟩ :=
      inverts_readVector_two.ok_of_bind reachedValid returned
    obtain ⟨rfl, rfl⟩ := pure_eq_ok.mp returned
    refine ⟨⟨small, short⟩, lastValid, same'.trans same, ?_⟩
    rw [ahead, ahead', Extension.encode, append_assoc]
  · rintro ⟨fits, nextValid, same, ahead⟩
    rw [Extension.encode, append_assoc] at ahead
    refine inverts_readUint16.bind_of_rest valid fits.type ahead ?_
    intro reached reachedValid kept behind
    refine inverts_readVector_two.bind_of_rest reachedValid fits.data behind ?_
    intro last lastValid kept' behind'
    have done : last = next :=
      eq_of_rest nextValid lastValid (kept'.trans (kept.trans same.symm)) behind'
    rw [done]
    rfl

/-- The extensions of a block fill it. -/
theorem within_readExtension_eq_ok {blob : Bytes} :
    within blob readExtension reader = (.ok extensions, next) ↔
      (∀ extension ∈ extensions, extension.Fits) ∧
        blob = extensions.flatMap Extension.encode ∧ reader = next := by
  refine within_eq_ok inverts_readExtension ?_
  intro extension _ empty
  exact encodeUint16_ne_nil extension.type (append_eq_nil_iff.mp empty).1

/-- The extensions are read from a block, or nothing is left to read and there are none. -/
theorem readExtensions_eq_ok (valid : reader.Valid) :
    (∃ last, readExtensions reader = (.ok extensions, last)) ↔
      (reader.rest = [] ∧ extensions = []) ∨
      ((∀ extension ∈ extensions, extension.Fits) ∧
        (extensions.flatMap Extension.encode).length < 2 ^ 16 ∧
        ∃ trailing, reader.rest =
          encodeVector 2 (extensions.flatMap Extension.encode) ++ trailing) := by
  have choice : readExtensions reader =
      (if reader.hasMore then do
        let blob ← readVector 2
        within blob readExtension
      else return []) reader := rfl
  rw [choice]
  by_cases more : reader.hasMore = true
  · rw [if_pos more]
    have unread := hasMore_iff.mp more
    constructor
    · rintro ⟨last, returned⟩
      obtain ⟨blob, reached, short, reachedValid, same, ahead, returned⟩ :=
        inverts_readVector_two.ok_of_bind valid returned
      obtain ⟨fits, rfl, rfl⟩ := within_readExtension_eq_ok.mp returned
      exact .inr ⟨fits, short, reached.rest, ahead⟩
    · rintro (⟨empty, _⟩ | ⟨fits, short, trailing, ahead⟩)
      · exact absurd empty unread
      · obtain ⟨last, lastValid, kept, behind⟩ := exists_behind valid ahead
        refine ⟨last, inverts_readVector_two.bind_of_rest valid short ahead ?_⟩
        intro reached reachedValid kept' behind'
        have same : reached = last :=
          eq_of_rest lastValid reachedValid (kept'.trans kept.symm) (behind'.trans behind.symm)
        exact within_readExtension_eq_ok.mpr ⟨fits, rfl, same⟩
  · rw [if_neg more]
    have empty : reader.rest = [] := by
      by_contra unread
      exact more (hasMore_iff.mpr unread)
    constructor
    · rintro ⟨last, returned⟩
      obtain ⟨rfl, _⟩ := pure_eq_ok.mp returned
      exact .inl ⟨empty, rfl⟩
    · rintro (⟨_, rfl⟩ | ⟨_, _, trailing, ahead⟩)
      · exact ⟨reader, rfl⟩
      · -- A block has a length in front of it.
        rw [empty, encodeVector, append_assoc] at ahead
        have nothing := (append_eq_nil_iff.mp ahead.symm).1
        exact absurd nothing (encodeUint16_ne_nil _)

/-- What comes behind the head of a hello: nothing, or its extensions and anything. -/
def EndsWith (hello : ClientHello) (tail : Bytes) : Prop :=
  (tail = [] ∧ hello.extensions = []) ∨ ∃ trailing, tail = hello.encodeExtensions ++ trailing

/-- A hello that is read fits its fields, and its encoding comes next. -/
theorem parseHello_sound {last : ByteReader} (valid : reader.Valid)
    (returned : parseHello reader = (.ok hello, last)) :
    hello.Fits ∧ ∃ tail, EndsWith hello tail ∧ reader.rest = hello.encodeHead ++ tail := by
  obtain ⟨version, r1, fitVersion, v1, _, ahead1, returned⟩ :=
    inverts_readUint16.ok_of_bind valid returned
  obtain ⟨random, r2, fitRandom, v2, _, ahead2, returned⟩ :=
    (inverts_read 32).ok_of_bind v1 returned
  obtain ⟨sessionId, r3, fitSession, v3, _, ahead3, returned⟩ :=
    inverts_readVector_one.ok_of_bind v2 returned
  obtain ⟨ciphers, r4, fitCiphers, v4, _, ahead4, returned⟩ :=
    inverts_readVector_two.ok_of_bind v3 returned
  obtain ⟨cipherSuites, r5, suites, returned⟩ := bind_eq_ok.mp returned
  obtain ⟨fitSuites, rfl, rfl⟩ := within_readUint16_eq_ok.mp suites
  obtain ⟨compression, r6, fitCompression, v6, _, ahead6, returned⟩ :=
    inverts_readVector_one.ok_of_bind v4 returned
  obtain ⟨extensions, r7, read, returned⟩ := bind_eq_ok.mp returned
  obtain ⟨rfl, rfl⟩ := pure_eq_ok.mp returned
  have head : reader.rest = encodeUint16 version ++ random ++ encodeVector 1 sessionId ++
      encodeVector 2 (cipherSuites.flatMap encodeUint16) ++
      encodeVector 1 ((compression.map UInt8.toNat).map UInt8.ofNat) ++ r6.rest := by
    rw [map_ofNat_toNat, ahead1, ahead2, ahead3, ahead4, ahead6]
    simp only [id_eq, append_assoc]
  have octets := lt_of_mem_map_toNat compression
  have short : (compression.map UInt8.toNat).length < 2 ^ 8 := by
    rw [length_map]
    exact fitCompression
  rcases (readExtensions_eq_ok v6).mp ⟨r7, read⟩ with
    ⟨empty, rfl⟩ | ⟨fitExtensions, fitBlock, trailing, ahead7⟩
  · exact ⟨⟨fitVersion, fitRandom, fitSession, fitSuites, fitCiphers, octets, short, by simp, by simp⟩,
      r6.rest, .inl ⟨empty, rfl⟩, head⟩
  · exact ⟨⟨fitVersion, fitRandom, fitSession, fitSuites, fitCiphers, octets, short, fitExtensions,
      fitBlock⟩, r6.rest, .inr ⟨trailing, ahead7⟩, head⟩

/-- A hello that fits its fields is read where its encoding comes next. -/
theorem parseHello_complete {tail : Bytes} (valid : reader.Valid) (fits : hello.Fits)
    (ends : EndsWith hello tail) (ahead : reader.rest = hello.encodeHead ++ tail) :
    ∃ last, parseHello reader = (.ok hello, last) := by
  obtain ⟨behind, behindValid, kept, left⟩ := exists_behind valid ahead
  -- What the extensions are read from is fixed by the octets behind the head.
  obtain ⟨last, read⟩ : ∃ last, readExtensions behind = (.ok hello.extensions, last) := by
    rw [readExtensions_eq_ok behindValid, left]
    rcases ends with none | ⟨trailing, some⟩
    · exact .inl none
    · exact .inr ⟨fits.extensions, fits.block, trailing, some⟩
  have methods : (hello.compressionMethods.map UInt8.ofNat).map UInt8.toNat =
      hello.compressionMethods :=
    map_toNat_ofNat fits.compressionMethods
  have short : (hello.compressionMethods.map UInt8.ofNat).length < 2 ^ 8 := by
    rw [length_map]
    exact fits.compression
  simp only [ClientHello.encodeHead, append_assoc] at ahead
  refine ⟨last, inverts_readUint16.bind_of_rest valid fits.version ahead ?_⟩
  intro r1 v1 same1 ahead
  refine (inverts_read 32).bind_of_rest v1 fits.random ahead ?_
  intro r2 v2 same2 ahead
  refine inverts_readVector_one.bind_of_rest v2 fits.sessionId ahead ?_
  intro r3 v3 same3 ahead
  refine inverts_readVector_two.bind_of_rest v3 fits.ciphers ahead ?_
  intro r4 v4 same4 ahead
  have suites : within (hello.cipherSuites.flatMap encodeUint16) readUint16 r4 =
      (.ok hello.cipherSuites, r4) :=
    within_readUint16_eq_ok.mpr ⟨fits.cipherSuites, rfl, rfl⟩
  rw [bind_apply, suites]
  refine inverts_readVector_one.bind_of_rest v4 short ahead ?_
  intro r6 v6 same6 ahead
  have there : r6 = behind := by
    refine eq_of_rest behindValid v6 ?_ (ahead.trans left.symm)
    rw [same6, same4, same3, same2, same1, kept]
  rw [there, bind_apply, read, methods]
  rfl

/-- What comes behind the head decides which encoding it is. -/
theorem encodes_iff_endsWith :
    hello.Encodes body ↔ ∃ tail, EndsWith hello tail ∧ body = hello.encodeHead ++ tail := by
  constructor
  · rintro (⟨none, rfl⟩ | ⟨trailing, rfl⟩)
    · exact ⟨[], .inl ⟨rfl, none⟩, (append_nil _).symm⟩
    · exact ⟨_, .inr ⟨trailing, rfl⟩, append_assoc ..⟩
  · rintro ⟨tail, ⟨rfl, none⟩ | ⟨trailing, rfl⟩, rfl⟩
    · exact .inl ⟨none, append_nil _⟩
    · exact .inr ⟨trailing, (append_assoc ..).symm⟩

/-- A body that is parsed is an encoding of what is returned, and every encoding is parsed. -/
theorem parse_eq_ok : parse body = .ok hello ↔ hello.Fits ∧ hello.Encodes body := by
  have valid := valid_start body
  rw [encodes_iff_endsWith]
  constructor
  · intro returned
    have ran : parseHello { data := body } = (.ok hello, (parseHello { data := body }).2) := by
      rw [← returned]
      rfl
    exact parseHello_sound valid ran
  · rintro ⟨fits, tail, ends, ahead⟩
    obtain ⟨last, ran⟩ := parseHello_complete valid fits ends ahead
    rw [parse, ran]

/-- The reader returns a hello exactly for its encodings, and raises for everything else. -/
theorem parse_iff_encodes (body : Bytes) :
    (∀ hello, parse body = .ok hello ↔ hello.Fits ∧ hello.Encodes body) ∧
    ((∃ message, parse body = .error message) ↔
      ¬ ∃ hello : ClientHello, hello.Fits ∧ hello.Encodes body) := by
  refine ⟨fun hello => parse_eq_ok, ?_⟩
  constructor
  · rintro ⟨message, raised⟩ ⟨hello, encoded⟩
    rw [parse_eq_ok.mpr encoded] at raised
    cases raised
  · intro foreign
    cases outcome : parse body with
    | error message => exact ⟨message, rfl⟩
    | ok hello => exact absurd ⟨hello, parse_eq_ok.mp outcome⟩ foreign

end ClientHelloReader

end SolveTls
