import SolveTls.Proofs.Http2.Reference
import SolveTls.Proofs.Http2.SessionCapture

/-! The frames a session accepts follow the protocol, and the library is shown just those. -/

namespace SolveTls

variable {header : FrameHeader} {body : Bytes} {payload : Payload}

/-! ### The payload says which kind of frame it came in -/

/-- Settings are laid out in SETTINGS frames only. -/
theorem Encodes.kind_of_settings {payload : SettingsPayload}
    (encodes : Encodes header body (.settings payload)) : header.kind = some .settings := by
  -- Two of the encodings build SETTINGS payloads, and both are for SETTINGS frames.
  cases encodes <;> assumption

/-- Headers are laid out in HEADERS frames only. -/
theorem Encodes.kind_of_headers {payload : HeadersPayload}
    (encodes : Encodes header body (.headers payload)) : header.kind = some .headers := by
  cases encodes <;> assumption

/-- A SETTINGS frame that decoded carries settings, and an acknowledgment says so in its flags. -/
theorem Encodes.settings_of_kind (encodes : Encodes header body payload)
    (kind : header.kind = some .settings) :
    ∃ settings, payload = .settings settings ∧ settings.ack = header.has FrameFlags.ack := by
  cases encodes with
  | settingsAck _ flagged => exact ⟨_, rfl, flagged.symm⟩
  | settings _ unflagged _ => exact ⟨_, rfl, unflagged.symm⟩
  | _ => simp_all

/-- A HEADERS frame is laid out as headers. -/
theorem Encodes.headers_of_kind (encodes : Encodes header body payload)
    (kind : header.kind = some .headers) :
    ∃ headers, payload = .headers headers := by
  cases encodes with
  | headers => exact ⟨_, rfl⟩
  | prioritizedHeaders => exact ⟨_, rfl⟩
  | _ => simp_all

/-- A CONTINUATION frame is laid out as one. -/
theorem Encodes.continuation_of_kind (encodes : Encodes header body payload)
    (kind : header.kind = some .continuation) :
    ∃ fragment, payload = .continuation fragment := by
  cases encodes with
  | continuation => exact ⟨_, rfl⟩
  | _ => simp_all

namespace HTTP2Session

open Fallible HTTP2FrameReader HTTP2FrameBuilder List FrameFlags

variable {κ δ : Type} {packages : Packages κ δ}
variable {wire : Bytes} {frame : ParsedFrame} {α : Type} {streamId : Nat}

/-- A frame that came through without a fault has a meaning. -/
theorem encodes_of_captured (captured : Captured wire frame)
    (faultless : parseFault frame.payload = none) :
    WellFormed frame.header (wire.drop frameHeaderSize) ∧
      Encodes frame.header (wire.drop frameHeaderSize) frame.payload := by
  rw [captured.header]
  rcases captured.payload with decoded | ⟨error, nonempty, -, malformed⟩
  · exact decoded
  · -- A malformed payload has a message, which is a fault.
    rw [malformed] at faultless
    simp [parseFault, malformedPayload, nonempty] at faultless

/-! ### One accepted frame -/

/-- The state with more items noted as handed to the library. -/
def handing (state : HTTP2Session κ δ) (items : List Handed) : HTTP2Session κ δ :=
  { state with history := { state.history with handed := state.history.handed ++ items } }

/-- Handing nothing over changes nothing. -/
@[simp] theorem handing_nil (state : HTTP2Session κ δ) : handing state [] = state := by
  simp [handing]

variable {state after : HTTP2Session κ δ}

/-- The octets are noted, and the rest is the handling of events. -/
theorem receiveWire_ok (ran : receiveWire packages wire state = (.ok (), after)) :
    Handling (handing state [.wire wire]) after := by
  simp only [receiveWire, recordHanded, bind_eq_ok, modify_eq_ok] at ran
  obtain ⟨_, _, rfl, events, received, ran₁, ran₂⟩ := ran
  exact handling.trans ((outbound_onConnection _).reached ran₁).handling
    ((handling_processEvents events).reached ran₂)

/-- Handling a protocol error ends in that error, or in one of sending. -/
theorem handleProtocolError_eq_ok {raised : Exn} :
    handleProtocolError raised state = (.ok (), after) ↔ False := by
  cases raised with
  | protocolError message code =>
    simp only [handleProtocolError, bind_eq_ok, throw_eq_ok, and_false, exists_false]
  | _ => exact throw_eq_ok

/-- A delivery that returned was accepted by the library, and flushed. -/
theorem deliverFrame_inverts (ran : deliverFrame packages frame wire state = (.ok (), after)) :
    ∃ shown delivered flushed, wireForH2 frame wire = .ok shown ∧
      deliver packages frame shown state = (.ok (), delivered) ∧
      flush delivered = (.ok (), flushed) ∧
      runWhen (asksForAck frame) pause flushed = (.ok (), after) := by
  simp only [deliverFrame, bind_eq_ok, fromExcept_eq_ok] at ran
  obtain ⟨shown, _, ⟨converted, rfl⟩, _, delivered, caught, _, flushed, ran₁, ran₂⟩ := ran
  refine ⟨shown, delivered, flushed, converted, ?_, ran₁, ran₂⟩
  -- The handler never returns, so the body did.
  rw [tryCatch_apply] at caught
  rcases tried : deliver packages frame shown state with ⟨raised | _, reached⟩ <;>
    rw [tried] at caught
  · exact (handleProtocolError_eq_ok.mp caught).elim
  · exact caught

/-- A delivered frame was accepted by the library; only output followed. -/
theorem deliverFrame_ok (ran : deliverFrame packages frame wire state = (.ok (), after)) :
    ∃ shown delivered, wireForH2 frame wire = .ok shown ∧
      deliver packages frame shown state = (.ok (), delivered) ∧ Outbound delivered after := by
  obtain ⟨shown, delivered, flushed, converted, ran₁, ran₂, ran₃⟩ := deliverFrame_inverts ran
  exact ⟨shown, delivered, converted, ran₁, outbound.trans (outbound_flush.reached ran₂)
    ((outbound.within_runWhen _ outbound_pause).reached ran₃)⟩

/-- The frame that is built has no padding and no priority. -/
theorem buildHeadersFrame_ok {payload : HeadersPayload}
    (built : buildHeadersFrame streamId payload.headerBlock payload.endStream
      payload.endHeaders = .ok wire) : wire = rebuiltHeaders streamId payload := by
  simp only [buildHeadersFrame, buildFrame] at built
  -- Both bounds of the builder passed, so it returned the octets of the frame.
  split at built
  · cases built
  · split at built
    · cases built
    · exact (Except.ok.inj built).symm

/-- The kinds of frames that the session deals with alone. -/
def ownKinds : List (Option FrameType) :=
  [some .altsvc, some .origin, some .priority, some .priorityUpdate, some .goaway]

/-- Apart from SETTINGS and prioritized HEADERS, the library is shown the frame as it came. -/
theorem shownToH2_unchanged (encodes : Encodes frame.header body frame.payload)
    (settings : frame.header.kind ≠ some .settings)
    (prioritized : ¬ (frame.header.kind = some .headers ∧
      frame.header.has priority = true)) (reaches : frame.header.kind ∉ ownKinds) :
    shownToH2 frame = some (.wire frame.raw) := by
  simp only [ownKinds, mem_cons, not_mem_nil, or_false, not_or] at reaches
  obtain ⟨notAltsvc, notOrigin, notPriority, notUpdate, notGoaway⟩ := reaches
  unfold shownToH2
  -- The payload is neither of settings nor of a prioritized HEADERS frame.
  split
  · contradiction
  · contradiction
  · contradiction
  · contradiction
  · contradiction
  · rename_i payload decoded _ _ _ _ _
    rw [decoded] at encodes
    exact absurd encodes.kind_of_settings settings
  · rename_i payload decoded _ _ _ _ _
    rw [decoded] at encodes
    rw [if_neg fun flagged => prioritized ⟨encodes.kind_of_headers, flagged⟩]
  · rfl

/-- What the connection is handed for a frame of a kind that reaches it. -/
theorem deliver_ok {shown : Bytes} (raw : frame.raw = wire)
    (encodes : Encodes frame.header body frame.payload)
    (converted : wireForH2 frame wire = .ok shown)
    (ran : deliver packages frame shown state = (.ok (), after))
    (reaches : frame.header.kind ∉ ownKinds) :
    Handling (handing state (shownToH2 frame).toList) after := by
  by_cases settings : frame.header.kind = some .settings
  · -- Acknowledgments go to the library as they are, settings through the adapter.
    obtain ⟨payload, decoded, -⟩ := encodes.settings_of_kind settings
    have same : shown = wire := by
      simp [wireForH2, settings] at converted
      exact converted.symm
    simp only [deliver, if_pos settings, decoded] at ran
    simp only [shownToH2, settings, decoded]
    by_cases ack : payload.ack = true
    · rw [if_pos ack] at ran
      rw [if_pos ack, raw, ← same]
      exact receiveWire_ok ran
    · rw [if_neg ack] at ran
      rw [if_neg ack]
      simp only [recordHanded, bind_eq_ok, modify_eq_ok] at ran
      obtain ⟨_, _, rfl, applied⟩ := ran
      exact ((outbound_applySettings _).reached applied).handling
  · simp only [deliver, if_neg settings] at ran
    have handled := receiveWire_ok ran
    by_cases prioritized : frame.header.kind = some .headers ∧ frame.header.has priority
    · -- A prioritized HEADERS frame is rebuilt from its block and its two flags.
      obtain ⟨headers, flagged⟩ := prioritized
      obtain ⟨payload, decoded⟩ := encodes.headers_of_kind headers
      simp only [wireForH2, headers, flagged, and_self, if_true, decoded] at converted
      simp only [shownToH2, headers, flagged, decoded, if_true]
      rw [← buildHeadersFrame_ok (liftBuilder_eq_ok.mp converted)]
      exact handled
    · rw [wireForH2, if_neg prioritized] at converted
      obtain rfl := Except.ok.inj converted
      rw [shownToH2_unchanged encodes settings prioritized reaches, raw]
      exact handled

/-- Counting the open streams lets the library forget the closed ones, and nothing else. -/
theorem checkPriorityLimit_ok (ran : checkPriorityLimit packages state = (.ok (), after)) :
    after = { state with connection := { state.connection with
      core := (packages.h2.openInboundStreams state.connection.core).2 } } := by
  simp only [checkPriorityLimit, bind_eq_ok, get_eq_ok, failIf_eq_ok] at ran
  obtain ⟨opened, counted, ran₁, _, _, ⟨rfl, rfl⟩, -, rfl⟩ := ran
  exact (Prod.mk.inj ran₁).2.symm

/-- A reset that is accepted changes nothing. -/
theorem checkReset_ok (ran : checkReset packages frame state = (.ok (), after)) :
    after = state := by
  rcases runWhen_eq_ok.mp ran with ⟨-, checked⟩ | ⟨-, same⟩
  · simp only [bind_eq_ok, get_eq_ok, failIf_eq_ok] at checked
    obtain ⟨_, _, ⟨rfl, rfl⟩, -, rfl⟩ := checked
    rfl
  · exact same.symm

/-- What a frame that the session deals with alone may change. -/
structure Aside (packages : Packages κ δ) (state after : HTTP2Session κ δ) : Prop where
  shape : ∃ prioritizedIdleStreams cancelled core, after = { state with
    prioritizedIdleStreams, cancelled, connection := { state.connection with core } }
  core : after.connection.core = state.connection.core ∨
    after.connection.core = (packages.h2.openInboundStreams state.connection.core).2
  cancelled : state.cancelled = true → after.cancelled = true

/-- Doing nothing is aside of the grammar. -/
theorem aside_refl (state : HTTP2Session κ δ) : Aside packages state state :=
  ⟨⟨_, _, _, rfl⟩, .inl rfl, id⟩

/-- What is aside is a kind of handling. -/
theorem Aside.handling (aside : Aside packages state after) :
    Handling state after := by
  obtain ⟨⟨streams, cancelled, core, rfl⟩, -, kept⟩ := aside
  exact ⟨rfl, rfl, rfl, rfl, rfl, rfl, rfl, rfl, rfl, rfl, rfl, rfl, rfl, id, kept, .inl rfl⟩

/-- A priority update is aside of the grammar. -/
theorem processPriorityUpdate_ok
    (ran : processPriorityUpdate packages streamId state = (.ok (), after)) :
    Aside packages state after := by
  simp only [processPriorityUpdate, bind_eq_ok, failIf_eq_ok, get_eq_ok] at ran
  obtain ⟨_, _, ⟨-, rfl⟩, _, _, ⟨rfl, rfl⟩, rest⟩ := ran
  -- An idle target is remembered; the streams are counted unless the target is closed.
  split at rest
  · simp only [bind_eq_ok, modify_eq_ok] at rest
    obtain ⟨_, _, rfl, counted⟩ := rest
    obtain rfl := checkPriorityLimit_ok counted
    exact ⟨⟨_, _, _, rfl⟩, .inr rfl, id⟩
  · rcases runWhen_eq_ok.mp rest with ⟨-, counted⟩ | ⟨-, rfl⟩
    · obtain rfl := checkPriorityLimit_ok counted
      exact ⟨⟨_, _, _, rfl⟩, .inr rfl, id⟩
    · exact aside_refl state

/-- A frame with a payload is put aside or delivered, by its kind. -/
theorem processParsed_cases (ran : processParsed packages frame wire state = (.ok (), after)) :
    frame.header.kind ≠ some .pushPromise ∧
      (frame.header.kind ∈ [some FrameType.priority, some .priorityUpdate, some .goaway] ∧
        Aside packages state after ∨
      frame.header.kind ∉ [some FrameType.priority, some .priorityUpdate, some .goaway] ∧
        deliverFrame packages frame wire state = (.ok (), after)) := by
  simp only [processParsed, bind_eq_ok, failIf_eq_ok] at ran
  obtain ⟨_, _, ⟨unpromised, rfl⟩, _, checked, ran₁, ran₂⟩ := ran
  obtain rfl := checkReset_ok ran₁
  refine ⟨unpromised, ?_⟩
  by_cases priority : frame.header.kind = some .priority
  · simp only [priority] at ran₂
    obtain ⟨-, rfl⟩ := pure_eq_ok.mp ran₂
    exact .inl ⟨by simp [priority], aside_refl _⟩
  by_cases update : frame.header.kind = some .priorityUpdate
  · simp only [update] at ran₂
    cases decoded : frame.payload <;> simp only [decoded] at ran₂
    case priorityUpdate payload =>
      exact .inl ⟨by simp [update], processPriorityUpdate_ok ran₂⟩
    all_goals exact (throw_eq_ok.mp ran₂).elim
  by_cases goaway : frame.header.kind = some .goaway
  · simp only [goaway] at ran₂
    cases decoded : frame.payload <;> simp only [decoded] at ran₂
    case goaway payload =>
      refine .inl ⟨by simp [goaway], ?_⟩
      rcases runWhen_eq_ok.mp ran₂ with ⟨-, marked⟩ | ⟨-, rfl⟩
      · obtain rfl := modify_eq_ok.mp marked
        exact ⟨⟨_, _, _, rfl⟩, .inl rfl, fun _ => rfl⟩
      · exact aside_refl _
    all_goals exact (throw_eq_ok.mp ran₂).elim
  · -- All other kinds are delivered.
    refine .inr ⟨by simp [priority, update, goaway], ?_⟩
    cases kind : frame.header.kind with
    | none => simpa only [kind] using ran₂
    | some known => cases known <;> first | contradiction | simpa only [kind] using ran₂

/-- The state in which a frame has passed the checks of its place in the sequence. -/
def admitting (state : HTTP2Session κ δ) (frame : ParsedFrame) (wire : Bytes) : HTTP2Session κ δ :=
  let inBlock := frame.header.kind = some .headers ∨ frame.header.kind = some .continuation
  let ends := frame.header.has endHeaders
  { state with
    firstFrame := false
    capture := { state.capture with
      initialSettings :=
        match state.firstFrame, frame.payload with
        | true, .settings payload => some payload.entries
        | _, _ => state.capture.initialSettings }
    continuationStream :=
      if inBlock then (if ends then none else some frame.header.streamId)
      else state.continuationStream
    headerBlockBytes :=
      if inBlock then (if ends then 0 else state.headerBlockBytes + frame.header.length)
      else state.headerBlockBytes
    history := { state.history with
      processed := state.history.processed ++ [(frame, wire)]
      idle := state.history.idle && state.connection.outgoing.isEmpty } }

/-- What the checks have made sure of when a frame was accepted. -/
structure Admitted (state : HTTP2Session κ δ) (frame : ParsedFrame) : Prop where
  first : state.firstFrame = true →
    frame.header.kind = some .settings ∧ frame.header.has ack = false
  continued : ∀ stream ∈ state.continuationStream,
    frame.header.kind = some .continuation ∧ frame.header.streamId = stream
  fits : frame.header.kind = some .headers ∨ frame.header.kind = some .continuation →
    state.headerBlockBytes + frame.header.length ≤ maxHeaderListSize
  sound : ¬ (frame.header.kind = some .altsvc ∨ frame.header.kind = some .origin) →
    frame.header.kind ≠ some .pushPromise ∧ frame.payload.parseError = none ∧
      WellFormed frame.header (frame.raw.drop frameHeaderSize) ∧
      Encodes frame.header (frame.raw.drop frameHeaderSize) frame.payload

/-- The first frame is a SETTINGS frame, whose entries are kept. -/
theorem checkFirstFrame_ok (ran : checkFirstFrame packages frame state = (.ok (), after)) :
    (state.firstFrame = true →
      frame.header.kind = some .settings ∧ frame.header.has ack = false) ∧
    after = { state with
      firstFrame := false
      capture := { state.capture with
        initialSettings :=
          match state.firstFrame, frame.payload with
          | true, .settings payload => some payload.entries
          | _, _ => state.capture.initialSettings } } := by
  simp only [checkFirstFrame, bind_eq_ok, get_eq_ok] at ran
  obtain ⟨_, _, ⟨rfl, rfl⟩, ran⟩ := ran
  rcases runWhen_eq_ok.mp ran with ⟨first, checked⟩ | ⟨later, rfl⟩
  · simp only [bind_eq_ok, failIf_eq_ok, modify_eq_ok, not_or, not_not] at checked
    obtain ⟨_, _, ⟨⟨kind, unflagged⟩, rfl⟩, _, _, rfl, rest⟩ := checked
    refine ⟨fun _ => ⟨kind, by simpa using unflagged⟩, ?_⟩
    -- Only a SETTINGS payload has initial settings in it.
    cases decoded : frame.payload <;> simp only [decoded] at rest
    case settings payload =>
      obtain rfl := modify_eq_ok.mp rest
      simp [first]
    all_goals
      obtain ⟨-, rfl⟩ := pure_eq_ok.mp rest
      simp [first]
  · have seen : state.firstFrame = false := by simpa using later
    refine ⟨fun first => absurd first later, ?_⟩
    obtain ⟨⟩ := state
    cases seen
    rfl

/-- A block is counted up to its end, and is small enough. -/
theorem countHeaderBlock_ok (ran : countHeaderBlock packages frame state = (.ok (), after)) :
    (frame.header.kind = some .headers ∨ frame.header.kind = some .continuation →
      state.headerBlockBytes + frame.header.length ≤ maxHeaderListSize) ∧
    after =
      if frame.header.kind = some .headers ∨ frame.header.kind = some .continuation then
        if frame.header.has endHeaders then
          { state with continuationStream := none, headerBlockBytes := 0 }
        else { state with
          continuationStream := some frame.header.streamId
          headerBlockBytes := state.headerBlockBytes + frame.header.length }
      else state := by
  rcases runWhen_eq_ok.mp ran with ⟨inBlock, counted⟩ | ⟨outside, rfl⟩
  · simp only [bind_eq_ok, modify_eq_ok, get_eq_ok, failIf_eq_ok] at counted
    obtain ⟨_, _, rfl, _, _, ⟨rfl, rfl⟩, _, _, ⟨below, rfl⟩, rest⟩ := counted
    refine ⟨fun _ => not_lt.mp below, ?_⟩
    rw [if_pos inBlock]
    split at rest
    · rename_i ends
      rw [if_pos ends]
      exact (modify_eq_ok.mp rest).symm
    · rename_i goesOn
      rw [if_neg goesOn]
      exact (modify_eq_ok.mp rest).symm
  · exact ⟨fun inBlock => absurd inBlock outside, by rw [if_neg outside]⟩

/-- Only frames without a fault pass. -/
theorem rejectMalformed_ok (ran : rejectMalformed packages frame state = (.ok (), after)) :
    parseFault frame.payload = none ∧ after = state := by
  unfold rejectMalformed at ran
  cases fault : parseFault frame.payload with
  | none =>
    rw [fault] at ran
    exact ⟨rfl, (pure_eq_ok.mp ran).2.symm⟩
  | some found =>
    rw [fault] at ran
    exact (fail_eq_ok.mp ran).elim

/-- The checks that every frame goes through, whatever it is. -/
def checkPlace (packages : Packages κ δ) (frame : ParsedFrame) (wire : Bytes) : SessionM κ δ Unit := do
  modify fun self => noting self frame wire
  checkFirstFrame packages frame
  checkContinuation packages frame
  countHeaderBlock packages frame

/-- A frame is checked for its place before all else. -/
theorem processFrame_eq (packages : Packages κ δ) (frame : ParsedFrame) (wire : Bytes) :
    processFrame packages frame wire = (do
      checkPlace packages frame wire
      if frame.header.kind = some .altsvc ∨ frame.header.kind = some .origin then pure ()
      else
        rejectMalformed packages frame
        processParsed packages frame wire) := by
  simp only [checkPlace, bind_assoc_eq]
  rfl

/-- The checks return if the frame is in its place, and what they count is then known. -/
theorem checkPlace_ok (ran : checkPlace packages frame wire state = (.ok (), after)) :
    (state.firstFrame = true →
      frame.header.kind = some .settings ∧ frame.header.has ack = false) ∧
    (∀ stream ∈ state.continuationStream,
      frame.header.kind = some .continuation ∧ frame.header.streamId = stream) ∧
    (frame.header.kind = some .headers ∨ frame.header.kind = some .continuation →
      state.headerBlockBytes + frame.header.length ≤ maxHeaderListSize) ∧
    after = admitting state frame wire := by
  simp only [checkPlace, bind_eq_ok, modify_eq_ok] at ran
  obtain ⟨_, _, rfl, _, begun, ran₁, _, placed, ran₂, ran₃⟩ := ran
  obtain ⟨first, rfl⟩ := checkFirstFrame_ok ran₁
  simp only [checkContinuation, bind_eq_ok, get_eq_ok, failIf_eq_ok] at ran₂
  obtain ⟨_, _, ⟨rfl, rfl⟩, continued, rfl⟩ := ran₂
  obtain ⟨fits, shape⟩ := countHeaderBlock_ok ran₃
  refine ⟨first, ?_, fits, ?_⟩
  · intro stream expected
    by_contra misplaced
    exact continued ⟨stream, expected, not_and_or.mp misplaced⟩
  · rw [shape]
    unfold admitting
    by_cases inBlock : frame.header.kind = some .headers ∨ frame.header.kind = some .continuation
    · by_cases ends : frame.header.has endHeaders = true
      · simp only [if_pos inBlock, if_pos ends, noting]
      · simp only [if_pos inBlock, if_neg ends, noting]
    · simp only [if_neg inBlock, noting]

/-- A frame that was processed to its end passed every check, and was put aside or delivered. -/
theorem processFrame_cases (captured : Captured wire frame)
    (ran : processFrame packages frame wire state = (.ok (), after)) :
    Admitted state frame ∧
      (frame.header.kind ∈ ownKinds ∧ Aside packages (admitting state frame wire) after ∨
      frame.header.kind ∉ ownKinds ∧
        deliverFrame packages frame wire (admitting state frame wire) = (.ok (), after)) := by
  rw [processFrame_eq, bind_eq_ok] at ran
  obtain ⟨_, _, ran₁, ran₄⟩ := ran
  obtain ⟨first, placed, fits, rfl⟩ := checkPlace_ok ran₁
  by_cases ignored : frame.header.kind = some .altsvc ∨ frame.header.kind = some .origin
  · -- An advertisement is not checked any further.
    rw [if_pos ignored] at ran₄
    obtain ⟨-, rfl⟩ := pure_eq_ok.mp ran₄
    refine ⟨⟨first, placed, fits, fun known => absurd ignored known⟩, .inl ⟨?_, aside_refl _⟩⟩
    rcases ignored with kind | kind <;> simp [ownKinds, kind]
  · rw [if_neg ignored, bind_eq_ok] at ran₄
    obtain ⟨_, parsed, ran₅, ran₆⟩ := ran₄
    obtain ⟨faultless, rfl⟩ := rejectMalformed_ok ran₅
    obtain ⟨formed, encodes⟩ := encodes_of_captured captured faultless
    rw [← captured.raw] at formed encodes
    obtain ⟨unpromised, rest⟩ := processParsed_cases ran₆
    refine ⟨⟨first, placed, fits, fun _ =>
      ⟨unpromised, parseError_of_encodes encodes, formed, encodes⟩⟩, rest.imp ?_ ?_⟩
    · rintro ⟨own, aside⟩
      exact ⟨mem_cons_of_mem _ (mem_cons_of_mem _ own), aside⟩
    · rintro ⟨others, delivered⟩
      refine ⟨fun own => ?_, delivered⟩
      rcases mem_cons.mp own with kind | own
      · exact ignored (.inl kind)
      · rcases mem_cons.mp own with kind | own
        · exact ignored (.inr kind)
        · exact others own

/-- An accepted frame was shown to the library if it should be. -/
theorem processFrame_ok (captured : Captured wire frame)
    (ran : processFrame packages frame wire state = (.ok (), after)) :
    Admitted state frame ∧
      Handling (handing (admitting state frame wire) (shownToH2 frame).toList) after := by
  obtain ⟨admitted, ⟨own, aside⟩ | ⟨reaches, delivered⟩⟩ := processFrame_cases captured ran
  · have hidden : shownToH2 frame = none := by
      simp only [ownKinds, mem_cons, not_mem_nil, or_false] at own
      rcases own with kind | kind | kind | kind | kind <;> simp [shownToH2, kind]
    rw [hidden, Option.toList_none, handing_nil]
    exact ⟨admitted, aside.handling⟩
  · have known : ¬ (frame.header.kind = some .altsvc ∨ frame.header.kind = some .origin) := by
      rintro (kind | kind) <;> simp [ownKinds, kind] at reaches
    obtain ⟨-, -, -, encodes⟩ := admitted.sound known
    obtain ⟨shown, reached, converted, ran₁, same⟩ := deliverFrame_ok delivered
    exact ⟨admitted, handling.trans (deliver_ok captured.raw encodes converted ran₁ reaches)
      same.handling⟩

/-! ### Header blocks -/

/-- How much of a block's budget is used at the end of the frames, if they leave it open. -/
def blockEnd : (used : Nat) → List ParsedFrame → Option Nat
  | used, [] => some used
  | used, frame :: rest =>
    if frame.header.has endHeaders then none
    else blockEnd (used + frame.header.length) rest

/-- A block goes on until a frame ends it. -/
theorem blockEnd_snoc (used : Nat) (rest : List ParsedFrame) (frame : ParsedFrame) :
    blockEnd used (rest ++ [frame]) = (blockEnd used rest).bind fun reached =>
      if frame.header.has endHeaders then none
      else some (reached + frame.header.length) := by
  induction rest generalizing used with
  | nil => rfl
  | cons next rest ih =>
    simp only [cons_append, blockEnd]
    split
    · rfl
    · exact ih _

/-- One more frame continues a block that is still open, and does not concern one that ended. -/
theorem continued_snoc {stream used : Nat} {rest : List ParsedFrame}
    (continued : Continued stream used rest)
    (next : ∀ reached ∈ blockEnd used rest, frame.header.kind = some .continuation ∧
      frame.header.streamId = stream ∧ reached + frame.header.length ≤ maxHeaderListSize) :
    Continued stream used (rest ++ [frame]) := by
  -- The induction follows the frames of the block; the new one is looked at in the end.
  induction rest generalizing used with
  | nil =>
    obtain ⟨kind, same, fits⟩ := next used rfl
    exact ⟨kind, same, fits, .inr fits⟩
  | cons head rest ih =>
    obtain ⟨kind, same, fits, ends | goesOn⟩ := continued
    · exact ⟨kind, same, fits, .inl ends⟩
    · by_cases ends : head.header.has endHeaders = true
      · exact ⟨kind, same, fits, .inl ends⟩
      · refine ⟨kind, same, fits, .inr (ih goesOn fun reached opened => next reached ?_)⟩
        rw [blockEnd, if_neg ends]
        exact opened

/-- What the frame checks maintain about the frames captured so far. -/
structure Accepting (session : HTTP2Session κ δ) : Prop where
  grammatical : Grammatical session
  started : session.firstFrame = true ∨ session.capture.frames ≠ []
  unstarted : session.firstFrame = true → session.capture.frames = []
  rested : session.continuationStream = none → session.headerBlockBytes = 0
  opened : ∀ older opening newer, session.capture.frames = older ++ opening :: newer →
    opening.header.kind = some .headers → opening.header.has endHeaders = false →
      ∀ used ∈ blockEnd opening.header.length newer,
        session.continuationStream = some opening.header.streamId ∧
          session.headerBlockBytes = used
  bounded : session.headerBlockBytes ≤ maxHeaderListSize

/-- A list with one more element splits at an old place, or at the new end. -/
theorem split_snoc {items older newer : List α} {last opening : α}
    (split : items ++ [last] = older ++ opening :: newer) :
    (∃ between, newer = between ++ [last] ∧ items = older ++ opening :: between) ∨
      newer = [] ∧ items = older ∧ last = opening := by
  rcases eq_nil_or_concat newer with rfl | ⟨between, final, rfl⟩
  · obtain ⟨same, ends⟩ := append_inj' split rfl
    exact .inr ⟨rfl, same, head_eq_of_cons_eq ends⟩
  · have grouped : items ++ [last] = (older ++ opening :: between) ++ [final] := by
      rw [split]
      simp
    obtain ⟨same, ends⟩ := append_inj' grouped rfl
    obtain rfl := head_eq_of_cons_eq ends
    exact .inl ⟨between, by simp, same⟩

/-- A frame that passed the checks promises nothing, and is malformed only if it is ignored. -/
theorem Admitted.lawful (admitted : Admitted state frame) :
    frame.header.kind ≠ some .pushPromise ∧
      (frame.payload.parseError ≠ none →
        frame.header.kind = some .altsvc ∨ frame.header.kind = some .origin) := by
  by_cases ignored : frame.header.kind = some .altsvc ∨ frame.header.kind = some .origin
  · exact ⟨by rcases ignored with kind | kind <;> simp [kind], fun _ => ignored⟩
  · obtain ⟨unpromised, decoded, -, -⟩ := admitted.sound ignored
    exact ⟨unpromised, fun malformed => absurd decoded malformed⟩

section Extending

variable {older newer : List ParsedFrame} {opening : ParsedFrame} {used : Nat}
  (accepting : Accepting state) (admitted : Admitted state frame)

include accepting admitted

/-- A block that is open before the frame is continued by it. -/
theorem Accepting.continues (split : state.capture.frames = older ++ opening :: newer)
    (kind : opening.header.kind = some .headers)
    (unended : opening.header.has endHeaders = false)
    (reached : used ∈ blockEnd opening.header.length newer) :
    frame.header.kind = some .continuation ∧ frame.header.streamId = opening.header.streamId ∧
      state.headerBlockBytes = used := by
  obtain ⟨stream, bytes⟩ := accepting.opened older opening newer split kind unended used reached
  obtain ⟨continued, same⟩ := admitted.continued _ stream
  exact ⟨continued, same, bytes⟩

/-- A HEADERS frame is only accepted when no block is open. -/
theorem Accepting.fresh (kind : frame.header.kind = some .headers) :
    state.headerBlockBytes = 0 := by
  refine accepting.rested ?_
  cases stream : state.continuationStream with
  | none => rfl
  | some expected =>
    have continued := (admitted.continued expected stream).1
    rw [kind] at continued
    cases continued

variable (frames : after.capture.frames = state.capture.frames ++ [frame])

include frames

/-- The oldest frame is still a SETTINGS frame. -/
theorem Accepting.first_snoc : ∀ head ∈ after.capture.frames.head?,
    head.header.kind = some .settings ∧ head.header.has ack = false ∧
      head.header.streamId = 0 ∧ WellFormed head.header (head.raw.drop frameHeaderSize) := by
  intro head among
  rw [frames, head?_append] at among
  cases older : state.capture.frames.head? with
  | some oldest =>
    rw [older] at among
    exact accepting.grammatical.first head (older ▸ among)
  | none =>
    rw [older] at among
    obtain rfl : frame = head := by simpa using among
    -- Nothing was captured before, so this is the first frame.
    have empty : state.capture.frames = [] := head?_eq_none_iff.mp older
    obtain ⟨kind, unflagged⟩ := admitted.first
      (accepting.started.resolve_right fun some => some empty)
    obtain ⟨-, -, formed, -⟩ := admitted.sound (by simp [kind])
    refine ⟨kind, unflagged, ?_, formed⟩
    simp only [WellFormed, kind] at formed
    exact formed.1

/-- Every block is still continued, the one this frame opens included. -/
theorem Accepting.blocks_snoc (split : after.capture.frames = older ++ opening :: newer)
    (kind : opening.header.kind = some .headers)
    (unended : opening.header.has endHeaders = false) :
    Continued opening.header.streamId opening.header.length newer := by
  rw [frames] at split
  rcases split_snoc split with ⟨between, rfl, split'⟩ | ⟨rfl, rfl, rfl⟩
  · refine continued_snoc (accepting.grammatical.blocks older opening between split' kind unended)
      fun used reached => ?_
    obtain ⟨continued, same, bytes⟩ := accepting.continues admitted split' kind unended reached
    exact ⟨continued, same, bytes ▸ admitted.fits (.inr continued)⟩
  · have fits := admitted.fits (.inl kind)
    rwa [accepting.fresh admitted kind, Nat.zero_add] at fits

/-- The longer sequence follows the protocol, if the frame was shown to the library as well. -/
theorem Accepting.grammatical_snoc
    (handed : after.history.handed = state.history.handed ++ (shownToH2 frame).toList) :
    Grammatical after := by
  have grammatical := accepting.grammatical
  refine ⟨accepting.first_snoc admitted frames,
    fun _ _ _ => accepting.blocks_snoc admitted frames, ?_, ?_, ?_⟩
  · rw [frames, forall_mem_append, forall_mem_singleton]
    exact ⟨grammatical.unpromised, admitted.lawful.1⟩
  · rw [frames, forall_mem_append, forall_mem_singleton]
    exact ⟨grammatical.malformed, admitted.lawful.2⟩
  · rw [handed, frames, filterMap_append, grammatical.shown]
    cases shown : shownToH2 frame <;> simp [shown]

/-- The block that is open afterwards is the one the state counts. -/
theorem Accepting.opened_snoc {wire : Bytes}
    (split : after.capture.frames = older ++ opening :: newer)
    (kind : opening.header.kind = some .headers)
    (unended : opening.header.has endHeaders = false)
    (reached : used ∈ blockEnd opening.header.length newer) :
    (admitting state frame wire).continuationStream = some opening.header.streamId ∧
      (admitting state frame wire).headerBlockBytes = used := by
  rw [frames] at split
  rcases split_snoc split with ⟨between, rfl, split'⟩ | ⟨rfl, rfl, rfl⟩
  · -- The block was open before, and this frame did not end it.
    rw [blockEnd_snoc] at reached
    obtain ⟨before, opened, rest⟩ := Option.bind_eq_some_iff.mp reached
    obtain ⟨continued, same, bytes⟩ := accepting.continues admitted split' kind unended opened
    by_cases ends : frame.header.has endHeaders = true
    · simp [ends] at rest
    · rw [if_neg ends, Option.some.injEq] at rest
      simp only [admitting, continued, or_true, if_true, ends, same, bytes, rest, and_self,
        Bool.false_eq_true, if_false]
  · obtain rfl : frame.header.length = used := Option.some.inj reached
    simp [admitting, kind, unended, accepting.fresh admitted kind]

/-- An accepted frame extends an accepted sequence. -/
theorem Accepting.extended (wire : Bytes) (firstFrame : after.firstFrame = false)
    (continuationStream : after.continuationStream =
      (admitting state frame wire).continuationStream)
    (headerBlockBytes : after.headerBlockBytes = (admitting state frame wire).headerBlockBytes)
    (handed : after.history.handed = state.history.handed ++ (shownToH2 frame).toList) :
    Accepting after := by
  refine ⟨accepting.grammatical_snoc admitted frames handed, .inr (by simp [frames]),
    by simp [firstFrame], ?rested, ?opened, ?bounded⟩
  case rested =>
    rw [continuationStream, headerBlockBytes]
    simp only [admitting]
    -- Either the frame ends its block, or a block is open, or nothing changes.
    split
    · split
      · exact fun _ => rfl
      · exact fun stream => by cases stream
    · exact accepting.rested
  case opened =>
    intro older opening newer split kind unended used reached
    rw [continuationStream, headerBlockBytes]
    exact accepting.opened_snoc admitted frames split kind unended reached
  case bounded =>
    rw [headerBlockBytes]
    simp only [admitting]
    split
    · rename_i inBlock
      split
      · exact Nat.zero_le _
      · exact admitted.fits inBlock
    · exact accepting.bounded

end Extending

/-! ### Runs that have not raised -/

/-- What the grammar looks at in a state. -/
def grammarView (session : HTTP2Session κ δ) :
    List ParsedFrame × Bool × Option Nat × Nat × List Handed :=
  (session.capture.frames, session.firstFrame, session.continuationStream,
    session.headerBlockBytes, session.history.handed)

variable {before : HTTP2Session κ δ}

/-- Only what the grammar looks at matters. -/
theorem Accepting.congr (same : grammarView after = grammarView before)
    (accepting : Accepting before) :
    Accepting after := by
  simp only [grammarView, Prod.mk.injEq] at same
  obtain ⟨frames, firstFrame, continuationStream, headerBlockBytes, handed⟩ := same
  obtain ⟨⟨first, blocks, unpromised, malformed, shown⟩, started, unstarted, rested, opened,
    bounded⟩ := accepting
  refine ⟨⟨?_, ?_, ?_, ?_, ?_⟩, ?_, ?_, ?_, ?_, ?_⟩ <;>
    simpa only [frames, firstFrame, continuationStream, headerBlockBytes, handed]

/-- The grammar does not look at output. -/
theorem Outbound.grammarView (same : Outbound before after) :
    HTTP2Session.grammarView after = HTTP2Session.grammarView before := by
  obtain ⟨⟨connection, transport, closed, applied, errors, rfl⟩, -, -⟩ := same
  rfl

/-- A new session has accepted nothing yet. -/
theorem accepting_create (packages : Packages κ δ) (transport : Transport) :
    Accepting (create packages transport) := by
  refine ⟨⟨fun _ among => (by cases among), ?_, fun _ among => (by cases among),
    fun _ among => (by cases among), rfl⟩, .inl rfl, fun _ => rfl, fun _ => rfl, ?_, Nat.zero_le _⟩
  · intro older opening newer split
    simp [create] at split
  · intro older opening newer split
    simp [create] at split

/-- Processing a captured frame to its end extends the accepted sequence by it. -/
theorem accepting_processFrame {entries : Nat} (captured : Captured wire frame)
    (ran : processFrame packages frame wire (capturing state frame entries) = (.ok (), after))
    (accepting : Accepting state) : Accepting after := by
  obtain ⟨admitted, handled⟩ := processFrame_ok captured ran
  -- The frame was appended before it was processed, which the checks do not look at.
  have before : Admitted state frame :=
    ⟨admitted.first, admitted.continued, admitted.fits, admitted.sound⟩
  exact accepting.extended before handled.frames wire handled.firstFrame
    handled.continuationStream handled.headerBlockBytes handled.handed

/-- Every frame that is processed keeps to the grammar. -/
theorem framewise_accepting : Framewise packages (Accepting (κ := κ) (δ := δ)) where
  begins := .congr rfl
  closes := .congr rfl
  reads := .congr rfl
  buffers _ _ _ := .congr rfl
  flushes ran := .congr (outbound_flush.reached ran).grammarView
  exchanges _ _ _ ran := .congr
    ((outbound.within_bind (outbound_callH2 _) fun _ => outbound_flush).reached ran).grammarView
  prefaced ran := .congr ((outbound_onConnection _).reached ran).grammarView
  processes captured ran := accepting_processFrame captured ran

/-- The accepted frames follow the protocol wherever a session waits. -/
theorem Waiting.accepting (waiting : Waiting packages state) :
    Accepting state :=
  waiting.holds (accepting_create packages) framewise_accepting.stable

/--
In every run that has not raised, the captured frames follow the protocol grammar.

The library was handed exactly these frames in order, apart from those the session keeps to itself.
-/
theorem run_grammatical {state : HTTP2Session κ δ} (run : Run packages false state) :
    Grammatical state :=
  run.waiting.accepting.grammatical

/-- The two frames of a plain request are accepted. -/
theorem run_grammatical_requested :
    Reference.requested.capture.frames.map (·.header.kind) = [some .settings, some .headers] ∧
      Grammatical Reference.requested :=
  ⟨by decide +kernel, run_grammatical Reference.run_requested⟩

end HTTP2Session

end SolveTls
