import SolveTls.Http2.Session
import SolveTls.Proofs.Http2.FrameBuilding
import SolveTls.Proofs.Http2.FrameLocality

/-! The reader undoes the builder, also for the HEADERS frames that are rebuilt for h2. -/

namespace SolveTls.HTTP2FrameReader

open Octets Fallible HTTP2FrameBuilder FrameFlags HTTP2Session List

variable {reader : HTTP2FrameReader} {header : FrameHeader} {body : Bytes}
variable {streamId maximum : Nat} {headerBlock : Bytes} {items : Dict Nat Nat}

/-! ### HEADERS -/

/-- No padding is always fine. -/
theorem skipPadding_zero (window : Window reader []) :
    skipPadding 0 reader = (.ok (), reader.skip 0) := by
  have nothing : Window reader ([] ++ []) := window
  have took : read ((0 : Nat) : Int) reader = (.ok [], reader.skip 0) := read_append nothing
  simp only [skipPadding, bind_eq_ok, get_eq_ok, raiseIf_eq_ok]
  exact ⟨[], _, took, _, _, ⟨rfl, rfl⟩, by simp, rfl⟩

/-- Without padding and priority the whole payload is the header block. -/
theorem parseHeaders_plain (window : Window reader body) (size : body.length = header.length)
    (stream : header.streamId ≠ 0) (unpadded : header.has padded = false)
    (unprioritized : header.has priority = false) :
    ∃ reached, parseHeaders header reader = (.ok {
      headerBlock := body
      priority := none
      endStream := header.has endStream
      endHeaders := header.has endHeaders
      padded := false }, reached) := by
  have whole : Window reader (body ++ []) := by
    rw [append_nil]
    exact window
  have padding : readPaddingLength header reader = (.ok 0, reader) := by
    rw [readPaddingLength, if_neg (by rw [unpadded]; decide)]
    rfl
  have took : read (header.length : Int) reader = (.ok body, reader.skip body.length) := by
    rw [← size]
    exact read_append whole
  simp only [parseHeaders, bind_eq_ok, raiseIf_eq_ok, pure_eq_ok, unpadded, unprioritized]
  refine ⟨_, (), reader, ⟨stream, rfl⟩, 0, reader, padding, none, reader, rfl, (), reader,
    ⟨by simp, rfl⟩, body, _, ?_, (), _, skipPadding_zero whole.skip, rfl, rfl⟩
  simpa using took

/-- The builder refuses only what is too large for its fields. -/
theorem buildHeadersFrame_eq (bounded : streamId ≤ maxStreamId)
    (short : headerBlock.length ≤ maxAllowedFrameSize) (endStream endHeaders : Bool) :
    buildHeadersFrame streamId headerBlock endStream endHeaders =
      .ok (headersBytes streamId headerBlock endStream endHeaders) := by
  rw [buildHeadersFrame, buildFrame, if_neg (Nat.not_lt.mpr short),
    if_neg (Nat.not_lt.mpr bounded)]
  rfl

theorem headerOf_headersBytes (bounded : streamId ≤ maxStreamId)
    (short : headerBlock.length ≤ maxAllowedFrameSize) (endStream endHeaders : Bool) :
    (headerOf (headersBytes streamId headerBlock endStream endHeaders)).length =
      headerBlock.length ∧
    (headerOf (headersBytes streamId headerBlock endStream endHeaders)).kind = some .headers ∧
    (headerOf (headersBytes streamId headerBlock endStream endHeaders)).streamId = streamId := by
  simp only [maxStreamId, maxAllowedFrameSize] at bounded short
  rw [headersBytes, headerOf_frameBytes]
  refine ⟨?_, rfl, ?_⟩
  · exact Nat.mod_eq_of_lt (by omega)
  · show streamId % 256 ^ 4 % 2 ^ 31 = streamId
    rw [Nat.mod_eq_of_lt (by omega), Nat.mod_eq_of_lt (by omega)]

/-- A built HEADERS frame is read as it was built. -/
theorem headersBytes_read (nonzero : streamId ≠ 0) (bounded : streamId ≤ maxStreamId)
    (short : headerBlock.length ≤ min maximum maxAllowedFrameSize)
    (endStream endHeaders strict forensic : Bool) (budget : Option Int) :
    ∃ frame, (parseFrame (create (headersBytes streamId headerBlock endStream endHeaders) maximum
        strict forensic budget)).1 = .ok frame ∧
      frame.header.streamId = streamId ∧
      frame.raw = headersBytes streamId headerBlock endStream endHeaders ∧
      frame.payload = .headers {
        headerBlock, priority := none, endStream, endHeaders, padded := false } := by
  have small : headerBlock.length ≤ maxAllowedFrameSize := short.trans (Nat.min_le_right ..)
  obtain ⟨length, kind, stream⟩ := headerOf_headersBytes bounded small endStream endHeaders
  obtain ⟨ended, complete, unprioritized, unpadded⟩ :=
    headersBytes_flags streamId headerBlock endStream endHeaders
  have framed : IsWireFrame (headersBytes streamId headerBlock endStream endHeaders) :=
    isWireFrame_frameBytes small
  have fits : (headerOf (headersBytes streamId headerBlock endStream endHeaders)).length ≤
      maximum := by
    rw [length]
    exact short.trans (Nat.min_le_left ..)
  have ahead := ahead_alone framed fits strict forensic budget
  have window := ahead.inPayload_window
  have block : (headersBytes streamId headerBlock endStream endHeaders).drop frameHeaderSize =
      headerBlock := drop_frameBytes ..
  rw [block] at window
  obtain ⟨reached, ran⟩ :=
    parseHeaders_plain window length.symm (stream.symm ▸ nonzero) unpadded unprioritized
  rw [ended, complete] at ran
  refine ⟨⟨_, _, _⟩, ?_, stream, rfl, rfl⟩
  rw [parseFrame_outcome ahead, parsePayloadByType, kind]
  simp only [map_eq_bind, bind_apply, ran, pure_apply]
  rfl

/-! ### SETTINGS -/

/-- Items that can be sent in a SETTINGS frame. -/
def Sendable (items : Dict Nat Nat) : Prop :=
  (items.map Prod.fst).Nodup ∧
    ∀ item ∈ items, item.1 < 2 ^ 16 ∧ item.2 < 2 ^ 32 ∧ SettingInRange item

/-- There are no more identifiers than 16 bits can tell apart, so a frame always has room. -/
theorem Sendable.short (sendable : Sendable items) :
    (settingsBytes items).length ≤ maxAllowedFrameSize := by
  have among : items.map Prod.fst ⊆ List.range (2 ^ 16) := by
    intro identifier member
    obtain ⟨item, listed, rfl⟩ := mem_map.mp member
    exact mem_range.mpr (sendable.2 item listed).1
  have few := (sendable.1.subperm among).length_le
  rw [length_map, length_range] at few
  rw [length_settingsBytes, maxAllowedFrameSize]
  omega

/-- Parameters in their ranges are read in their order, as far as the budget goes. -/
theorem parseSettings_items (window : Window reader (settingsBytes items))
    (size : (settingsBytes items).length = header.length) (stream : header.streamId = 0)
    (unflagged : header.has ack = false) (sendable : Sendable items)
    (room : ¬ ∃ limit ∈ reader.maxEntries, limit < (reader.entriesRead : Int) + items.length) :
    ∃ reached, parseSettings header reader =
      (.ok { settings := some (Dict.ofItems items), entries := items }, reached) := by
  have fit : ∀ item ∈ items, item.1 < 2 ^ 16 ∧ item.2 < 2 ^ 32 := by
    intro item member
    exact ⟨(sendable.2 item member).1, (sendable.2 item member).2.1⟩
  have parts : header.length = 6 * items.length := by
    rw [← size, length_settingsBytes]
  have counted : header.length / settingsEntrySize = items.length := by
    rw [parts]
    exact Nat.mul_div_cancel_left _ (by decide)
  have whole : header.length % settingsEntrySize = 0 := by
    rw [parts]
    exact Nat.mul_mod_right _ _
  have reserved : reserveEntries items.length reader = (.ok (), reader.count items.length) := by
    simp only [reserveEntries, bind_eq_ok, get_eq_ok, raiseIf_eq_ok, set_eq_ok]
    exact ⟨_, _, ⟨rfl, rfl⟩, (), _, ⟨room, rfl⟩, rfl⟩
  have entries := settingsEntries_settingsBytes fit
  have ranges : ∀ entry ∈ settingsEntries (settingsBytes items), SettingInRange entry := by
    rw [entries]
    intro entry member
    exact (sendable.2 entry member).2.2
  obtain ⟨payload, reached, looped⟩ := settingsLoop_complete [] [] (window.count items.length)
    (length_settingsBytes items) ranges
  obtain ⟨read, -, -⟩ :=
    settingsLoop_ok (window.count items.length) (length_settingsBytes items) looped
  rw [entries] at read
  refine ⟨reached, ?_⟩
  simp only [parseSettings, bind_eq_ok, raiseIf_eq_ok, not_not, unflagged, Bool.false_eq_true,
    if_false, counted]
  refine ⟨(), _, ⟨stream, rfl⟩, (), _, ⟨whole, rfl⟩, (), _, reserved, ?_⟩
  rw [looped, read]
  rfl

/-- A built SETTINGS frame is read as it was built. -/
theorem parseFrame_settingsBytes (sendable : Sendable items) (fits : 6 * items.length ≤ maximum)
    (strict forensic : Bool) {budget : Option Int}
    (room : ∀ limit ∈ budget, (items.length : Int) ≤ limit) :
    (parseFrame (create (frameBytes FrameType.settings.code 0 0 (settingsBytes items)) maximum
      strict forensic budget)).1 = .ok {
        header := headerOf (frameBytes FrameType.settings.code 0 0 (settingsBytes items))
        payload := .settings { settings := some (Dict.ofItems items), entries := items }
        raw := frameBytes FrameType.settings.code 0 0 (settingsBytes items) } := by
  have small := sendable.short
  have header := headerOf_frameBytes FrameType.settings.code 0 0 (settingsBytes items)
  have length : (headerOf (frameBytes FrameType.settings.code 0 0 (settingsBytes items))).length =
      (settingsBytes items).length := by
    rw [header]
    apply Nat.mod_eq_of_lt
    simp only [maxAllowedFrameSize] at small
    omega
  have kind : (headerOf (frameBytes FrameType.settings.code 0 0 (settingsBytes items))).kind =
      some .settings := by
    rw [header]
    rfl
  have framed : IsWireFrame (frameBytes FrameType.settings.code 0 0 (settingsBytes items)) :=
    isWireFrame_frameBytes small
  have allowed : (headerOf (frameBytes FrameType.settings.code 0 0 (settingsBytes items))).length ≤
      maximum := by
    rw [length, length_settingsBytes]
    exact fits
  have ahead := ahead_alone framed allowed strict forensic budget
  have window := ahead.inPayload_window
  rw [drop_frameBytes] at window
  have available : ¬ ∃ limit ∈ budget, limit < ((0 : Nat) : Int) + items.length := by
    rintro ⟨limit, among, less⟩
    have enough := room limit among
    omega
  obtain ⟨reached, ran⟩ := parseSettings_items window length.symm (by rw [header]; rfl)
    (by rw [header]; simp [FrameHeader.has]) sendable available
  rw [parseFrame_outcome ahead, parsePayloadByType, kind]
  simp only [map_eq_bind, bind_apply, ran, pure_apply]
  rfl

/-! ### HEADERS with a priority -/

/-- A frame that was decoded without an error is one of a well-formed payload. -/
theorem read_of_parseFrame {wire : Bytes} {frame : ParsedFrame} (ahead : Ahead reader wire)
    (returned : (parseFrame reader).1 = .ok frame) (clean : frame.payload.parseError = none) :
    frame.header = headerOf wire ∧ WellFormed (headerOf wire) (wire.drop frameHeaderSize) ∧
      Encodes (headerOf wire) (wire.drop frameHeaderSize) frame.payload := by
  rw [parseFrame_outcome ahead] at returned
  rcases ran : parsePayloadByType (headerOf wire) (reader.inPayload wire) with
    ⟨error | payload, after⟩ <;> rw [ran, frameOutcome] at returned
  · by_cases tolerated : error.code ≠ ErrorCode.enhanceYourCalm.code ∧
        Tolerates reader (headerOf wire)
    · -- What is kept of a malformed payload names its error.
      rw [if_pos tolerated] at returned
      cases returned
      cases clean
    · rw [if_neg tolerated] at returned
      cases returned
  · cases returned
    have read := (parsePayloadByType_sound ahead.inPayload_window (length_payload ahead.framed) ran).1
    exact ⟨rfl, read.wellFormed, read.encodes⟩

/-- A payload holds at least what stands inside its padding. -/
theorem length_le_of_padded {content : Bytes} (framed : Padded header body content) :
    content.length ≤ body.length := by
  cases framed with
  | plain => exact Nat.le_refl _
  | wrapped _ exact =>
    rw [length_cons, length_append]
    omega

/-- A decoded HEADERS frame with a priority has five octets more than its block. -/
theorem prioritized_block {payload : Payload} (kind : header.kind = some .headers)
    (prioritized : header.has priority = true) (encodes : Encodes header body payload) :
    ∃ fields, payload = .headers fields ∧ fields.headerBlock.length + 5 ≤ body.length := by
  cases encodes with
  | @prioritizedHeaders _ _ block _ _ _ width framed =>
    refine ⟨_, rfl, ?_⟩
    have inside := length_le_of_padded framed
    rw [length_append, length_cons, width] at inside
    show block.length + 5 ≤ body.length
    omega
  | headers _ unprioritized _ =>
    rw [prioritized] at unprioritized
    cases unprioritized
  | data other => cases kind.symm.trans other
  | priority other => cases kind.symm.trans other
  | rstStream other => cases kind.symm.trans other
  | settingsAck other => cases kind.symm.trans other
  | settings other => cases kind.symm.trans other
  | pushPromise other => cases kind.symm.trans other
  | ping other => cases kind.symm.trans other
  | goaway other => cases kind.symm.trans other
  | windowUpdate other => cases kind.symm.trans other
  | continuation other => cases kind.symm.trans other
  | altsvc other => cases kind.symm.trans other
  | origin other => cases kind.symm.trans other
  | priorityUpdate other => cases kind.symm.trans other
  | unknown other => cases kind.symm.trans other

section Rebuilding

variable {wire : Bytes} {frame : ParsedFrame} (framed : IsWireFrame wire)
  (fits : (headerOf wire).length ≤ maximum) {strict forensic : Bool} {budget : Option Int}
  (returned : (parseFrame (create wire maximum strict forensic budget)).1 = .ok frame)
  (kind : frame.header.kind = some .headers)
  (prioritized : frame.header.has priority = true)

include framed fits returned kind prioritized

/-- The header block of a HEADERS frame with a priority can be framed again, in fewer octets. -/
theorem prioritized_rebuildable (clean : frame.payload.parseError = none) :
    ∃ payload, frame.payload = .headers payload ∧ frame.header.streamId ≠ 0 ∧
      frame.header.streamId ≤ maxStreamId ∧
      payload.headerBlock.length ≤ min maximum maxAllowedFrameSize ∧
      frameHeaderSize + payload.headerBlock.length < wire.length := by
  have ahead := ahead_alone framed fits strict forensic budget
  obtain ⟨header, good, encodes⟩ := read_of_parseFrame ahead returned clean
  rw [header] at kind prioritized
  obtain ⟨payload, same, block⟩ := prioritized_block kind prioritized encodes
  rw [length_payload framed] at block
  have nonzero : frame.header.streamId ≠ 0 := by
    simp only [WellFormed, kind] at good
    rw [header]
    exact good.1
  have bounded : frame.header.streamId ≤ maxStreamId := by
    have less : (headerOf wire).streamId < 2 ^ 31 := Nat.mod_lt _ (by decide)
    rw [header, maxStreamId]
    omega
  -- The envelope of five octets at least is gone.
  have largest := headerOf_length_le wire
  have whole := framed.2
  exact ⟨payload, same, nonzero, bounded, by omega, by omega⟩

omit framed fits returned in
/-- For h2, a HEADERS frame with a priority is built again from its header block. -/
theorem wireForH2_prioritized {payload : HeadersPayload} (same : frame.payload = .headers payload)
    (bounded : frame.header.streamId ≤ maxStreamId)
    (small : payload.headerBlock.length ≤ maxAllowedFrameSize) :
    wireForH2 frame wire = .ok (headersBytes frame.header.streamId
      payload.headerBlock payload.endStream payload.endHeaders) := by
  rw [wireForH2, if_pos ⟨kind, prioritized⟩, same]
  simp only [buildHeadersFrame_eq bounded small]
  rfl

end Rebuilding

/-- What is built is read as it was built; so a HEADERS frame that loses its priority and padding is
shorter and still says the same. -/
theorem reader_undoes_builder (maximum : Nat) (strict forensic : Bool) :
    (∀ streamId headerBlock endStream endHeaders, ∀ budget : Option Int,
      1 ≤ streamId → streamId ≤ 2 ^ 31 - 1 →
      headerBlock.length ≤ min maximum maxAllowedFrameSize →
      ∃ wire frame, buildHeadersFrame streamId headerBlock endStream endHeaders = .ok wire ∧
        (parseFrame (create wire maximum strict forensic budget)).1 = .ok frame ∧
        frame.header.streamId = streamId ∧ frame.raw = wire ∧
        frame.payload = .headers {
          headerBlock, priority := none, endStream, endHeaders, padded := false }) ∧
    (∀ items : Dict Nat Nat, Sendable items →
      6 * items.length ≤ maxAllowedFrameSize ∧
      ∃ wire, buildSettingsFrame items false = .ok wire ∧
        ∀ budget : Option Int, 6 * items.length ≤ maximum →
          (∀ limit ∈ budget, (items.length : Int) ≤ limit) →
          ∃ frame, (parseFrame (create wire maximum strict forensic budget)).1 = .ok frame ∧
            frame.payload = .settings {
              settings := some (Dict.ofItems items), entries := items }) ∧
    (∀ wire, IsWireFrame wire → (headerOf wire).length ≤ maximum → ∀ (budget : Option Int) frame,
      (parseFrame (create wire maximum strict forensic budget)).1 = .ok frame →
      frame.header.kind = some .headers → frame.header.has priority = true →
      frame.payload.parseError = none →
      ∃ payload rebuilt, frame.payload = .headers payload ∧
        wireForH2 frame wire = .ok rebuilt ∧ rebuilt.length < wire.length ∧
        ∀ budget : Option Int, ∃ again,
          (parseFrame (create rebuilt maximum strict forensic budget)).1 = .ok again ∧
          again.header.streamId = frame.header.streamId ∧
          again.payload = .headers {
            headerBlock := payload.headerBlock
            priority := none
            endStream := payload.endStream
            endHeaders := payload.endHeaders
            padded := false }) := by
  refine ⟨?_, ?_, ?_⟩
  · -- HEADERS: the builder accepts the block, and the reader gives it back.
    intro streamId headerBlock endStream endHeaders budget least most short
    have small : headerBlock.length ≤ maxAllowedFrameSize := short.trans (Nat.min_le_right ..)
    obtain ⟨frame, returned, told⟩ :=
      headersBytes_read (by omega) most short endStream endHeaders strict forensic budget
    exact ⟨_, frame, buildHeadersFrame_eq most small endStream endHeaders, returned, told⟩
  · -- SETTINGS: the items always fit into a frame; the reader needs the budget for them.
    intro items sendable
    have small := sendable.short
    refine ⟨(length_settingsBytes items).symm.trans_le small,
      frameBytes FrameType.settings.code 0 0 (settingsBytes items), ?_, ?_⟩
    · exact buildSettingsFrame_eq
        (fun item among => ⟨(sendable.2 item among).1, (sendable.2 item among).2.1⟩) small
    · intro budget fits room
      exact ⟨_, parseFrame_settingsBytes sendable fits strict forensic room, rfl⟩
  · -- HEADERS with a priority: what was read is built again, and read again.
    intro wire framed fits budget frame returned kind prioritized clean
    obtain ⟨payload, same, nonzero, bounded, short, shorter⟩ :=
      prioritized_rebuildable framed fits returned kind prioritized clean
    have small : payload.headerBlock.length ≤ maxAllowedFrameSize := by omega
    refine ⟨payload, _, same, wireForH2_prioritized kind prioritized same bounded small, ?_, ?_⟩
    · rw [headersBytes, length_frameBytes]
      exact shorter
    · intro budget
      obtain ⟨again, returned, stream, -, told⟩ := headersBytes_read nonzero bounded short
        payload.endStream payload.endHeaders strict forensic budget
      exact ⟨again, returned, stream, told⟩

/-- The padded HEADERS frame with a priority is rebuilt without either. -/
theorem reader_undoes_builder_paddedHeaders :
    ∃ rebuilt, wireForH2 ⟨headerOf paddedHeaders, .headers {
        headerBlock := [0x82]
        priority := some { exclusive := true, dependency := 3, weight := 16 }
        endStream := false
        endHeaders := true
        padded := true }, paddedHeaders⟩ paddedHeaders = .ok rebuilt ∧
      rebuilt.length < paddedHeaders.length := by
  obtain ⟨-, rebuilt, -, converted, shorter, -⟩ := (reader_undoes_builder 65536 false true).2.2
    paddedHeaders (by decide) (by decide) none _ rfl rfl rfl rfl
  exact ⟨rebuilt, converted, shorter⟩

end SolveTls.HTTP2FrameReader
