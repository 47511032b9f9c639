import SolveTls.Proofs.Http2.SessionDelivery

/-! What the events of a frame do to the session when all of them are dealt with. -/

namespace SolveTls

open Fallible H2 FrameFlags

variable {κ δ α : Type} {packages : Packages κ δ} {view : κ → View}

/-! ### Calls that were answered -/

/-- The decoder has seen the expected block, or nothing. -/
def Decoded (hpack : Hpack δ) (expected : Option Bytes) (before after : RequestDecoder δ) : Prop :=
  match expected with
  | none => after = before
  | some block => ∃ fields, RequestDecoder.decode hpack block true before = (.ok fields, after)

/-- A call that returned has had the expected block decoded. -/
theorem H2Adapter.call_decodes (hpack : Hpack δ) {holds : Except Exn α → κ → Prop}
    {expected : Option Bytes} {call : H2Call κ α} (law : call.Decodes holds expected)
    {self after : H2Adapter κ δ} {value : α}
    (ran : H2Adapter.call hpack call self = (.ok value, after)) :
    holds (.ok value) after.core ∧ Decoded hpack expected self.decoder after.decoder := by
  -- The induction is on the call; decoding uses up the expected block.
  induction call generalizing self expected with
  | done result core queued =>
    obtain ⟨rfl, rfl⟩ := Prod.mk.inj ran
    cases expected with
    | none => exact ⟨law.1, rfl⟩
    | some block => cases law.2 ⟨value, rfl⟩
  | decode data resume ih =>
    cases expected with
    | none => exact law.elim
    | some block =>
      obtain ⟨rfl, returned, failed⟩ := law
      simp only [H2Adapter.call] at ran
      cases decoded : RequestDecoder.decode hpack data true self.decoder with
      | mk outcome decoder =>
        rw [decoded] at ran
        cases outcome with
        | ok fields =>
          obtain ⟨held, same⟩ := ih _ (returned fields) ran
          exact ⟨held, fields, by rw [decoded, show after.decoder = decoder from same]⟩
        | error raised =>
          -- The library raises if the block cannot be decoded, but this call returned.
          obtain ⟨_, _, _, _, _, ⟨error, wrong⟩, -⟩ :=
            H2Adapter.call_ends hpack (failed raised) { self with decoder }
          rw [ran] at wrong
          cases wrong
  | resizeEncoder size resume ih =>
    simp only [H2Adapter.call] at ran
    cases expected with
    | none =>
      have kept : resume.Decodes holds none := law
      exact (ih kept ran :)
    | some block =>
      have kept : resume.Decodes holds (some block) := law
      exact (ih kept ran :)
  | encode headers resume ih =>
    simp only [H2Adapter.call] at ran
    cases expected with
    | none => exact (ih _ (law _) ran :)
    | some block => exact (ih _ (law _) ran :)

/-- Streams may have been cut short, and nothing was decoded. -/
structure Answers (view : κ → View) (before after : H2Adapter κ δ) : Prop where
  settles : (view before.core).Settles (view after.core)
  decoder : after.decoder = before.decoder

theorem H2.View.Settles.refl (view : View) : view.Settles view := ⟨rfl, fun _ => .inl rfl⟩

theorem H2.View.Settles.trans {first second third : View} (before : first.Settles second)
    (after : second.Settles third) : first.Settles third := by
  -- A stream that was cut short once stays so.
  refine ⟨after.1.trans before.1, fun streamId => ?_⟩
  rcases before.2 streamId with same | ⟨open', finished⟩
  · rw [← same]
    exact after.2 streamId
  · rcases after.2 streamId with same' | ⟨receiving, -⟩
    · exact .inr ⟨open', same'.trans finished⟩
    · rw [finished] at receiving
      cases receiving

theorem Answers.refl (connection : H2Adapter κ δ) : Answers view connection connection :=
  ⟨H2.View.Settles.refl _, rfl⟩

theorem Answers.trans {first second third : H2Adapter κ δ} (before : Answers view first second)
    (after : Answers view second third) : Answers view first third :=
  ⟨before.settles.trans after.settles, after.decoder.trans before.decoder⟩

namespace HTTP2Session

variable {state after : HTTP2Session κ δ} {streamId : Nat} {headers : Option (List Field)}
  {fields : List Field} {ended : Bool} {frame : ParsedFrame}

theorem callH2_answers (streams : packages.h2.Streams view) (outcall : Outcall)
    (ran : callH2 packages outcall.method state = (.ok (), after)) :
    ∃ connection, after = { state with connection } ∧ Answers view state.connection connection := by
  simp only [callH2, onConnection, bind_apply, get_apply] at ran
  generalize called : H2Adapter.call packages.hpack
    (outcall.method packages.h2 state.connection.core) state.connection = outcome at ran
  obtain ⟨result, connection⟩ := outcome
  obtain ⟨rfl, rfl⟩ := Prod.mk.inj ran
  obtain ⟨settles, decoder⟩ :=
    H2Adapter.call_decodes packages.hpack (streams.calls outcall state.connection.core) called
  exact ⟨connection, rfl, settles ⟨(), rfl⟩, decoder⟩

/-! ### Events one by one -/

/-- Events without content can do no more than cancel the request. -/
def Skipped (before after : HTTP2Session κ δ) : Prop := ∃ cancelled, after = { before with cancelled }

/-- An event without content may only cancel. -/
theorem processEvent_skipped {event : Event} (empty : isContent event = false)
    {before : HTTP2Session κ δ} (ran : processEvent packages event before = (.ok (), after)) :
    Skipped before after := by
  cases event with
  | other =>
    obtain ⟨-, rfl⟩ := pure_eq_ok.mp ran
    exact ⟨before.cancelled, rfl⟩
  | streamReset streamId =>
    simp only [processEvent, processReset, bind_eq_ok, get_eq_ok] at ran
    obtain ⟨_, _, ⟨rfl, rfl⟩, ran⟩ := ran
    rcases runWhen_eq_ok.mp ran with ⟨-, changed⟩ | ⟨-, rfl⟩
    · rw [modify_eq_ok] at changed
      exact ⟨true, changed.symm⟩
    · exact ⟨before.cancelled, rfl⟩
  | _ => cases empty

/-- Data of the captured stream is counted, within the limit, and acknowledged. -/
theorem processData_ok (streams : packages.h2.Streams view) {data : Bytes} {length : Nat}
    (ran : processData packages streamId data length state = (.ok (), after)) :
    ∃ connection, Answers view state.connection connection ∧
      (state.capture.streamId = some streamId →
        state.requestBytes + data.length ≤ maxRequestBody) ∧
      after = { state with
        connection
        requestBytes :=
          if state.capture.streamId = some streamId then state.requestBytes + data.length
          else state.requestBytes } := by
  simp only [processData, bind_eq_ok, get_eq_ok] at ran
  obtain ⟨_, _, ⟨rfl, rfl⟩, _, counted, ran₁, ran₂⟩ := ran
  obtain ⟨connection, rfl, answers⟩ := callH2_answers streams (.acknowledge length streamId) ran₂
  rcases runWhen_eq_ok.mp ran₁ with ⟨captured, ran₃⟩ | ⟨other, rfl⟩
  · simp only [bind_eq_ok, modify_eq_ok, get_eq_ok, failIf_eq_ok] at ran₃
    obtain ⟨_, _, rfl, _, _, ⟨rfl, rfl⟩, below, rfl⟩ := ran₃
    refine ⟨connection, answers, fun _ => not_lt.mp below, ?_⟩
    rw [if_pos captured]
  · refine ⟨connection, answers, fun captured => absurd captured other, ?_⟩
    rw [if_neg other]

/-- The end of the captured stream is accepted if as much has come as was declared. -/
theorem processEnd_ok (ran : processEnd packages streamId state = (.ok (), after)) :
    state.capture.streamId = some streamId ∧
      (∀ expected ∈ state.expectedLength, expected = state.requestBytes) ∧
      after = { state with requestReady := true } ∨
    state.capture.streamId ≠ some streamId ∧ after = state := by
  simp only [processEnd, bind_eq_ok, get_eq_ok] at ran
  obtain ⟨_, _, ⟨rfl, rfl⟩, ran⟩ := ran
  rcases runWhen_eq_ok.mp ran with ⟨captured, ran₁⟩ | ⟨other, rfl⟩
  · simp only [bind_eq_ok, modify_eq_ok, failIf_eq_ok] at ran₁
    obtain ⟨_, _, ⟨matching, rfl⟩, rfl⟩ := ran₁
    refine .inl ⟨captured, fun expected declared => ?_, rfl⟩
    by_contra differs
    refine matching ⟨by rw [Option.mem_def.mp declared]; rfl, fun same => differs ?_⟩
    rw [Option.mem_def.mp declared] at same
    exact Option.some.inj same
  · exact .inr ⟨other, rfl⟩

/-- Fields that passed validation are those of the event. -/
theorem validateEvent_ok {trailers : Bool}
    (ran : validateEvent packages headers trailers state = (.ok fields, after)) :
    headers = some fields ∧ validateFields packages fields trailers = .ok () ∧ after = state := by
  cases headers with
  | none => exact (throw_eq_ok.mp ran).elim
  | some headers =>
    simp only [validateEvent] at ran
    cases checked : validateFields packages headers trailers with
    | ok value =>
      rw [checked] at ran
      obtain ⟨rfl, rfl⟩ := pure_eq_ok.mp ran
      exact ⟨rfl, checked, rfl⟩
    | error raised =>
      rw [checked] at ran
      cases raised with
      | protocolError message code => exact (fail_eq_ok.mp ran).elim
      | _ => exact (throw_eq_ok.mp ran).elim

/-- Trailers are kept for the captured stream. -/
theorem processTrailers_ok
    (ran : processTrailers packages streamId headers state = (.ok (), after)) :
    ∃ fields, headers = some fields ∧
      after = if state.capture.streamId = some streamId then
        { state with capture := { state.capture with trailers := fields } }
      else state := by
  simp only [processTrailers, bind_eq_ok, get_eq_ok] at ran
  obtain ⟨fields, checked, ran₁, _, _, ⟨rfl, rfl⟩, ran₂⟩ := ran
  obtain ⟨given, -, rfl⟩ := validateEvent_ok ran₁
  refine ⟨fields, given, ?_⟩
  rcases runWhen_eq_ok.mp ran₂ with ⟨captured, ran₃⟩ | ⟨other, rfl⟩
  · rw [if_pos captured]
    exact (modify_eq_ok.mp ran₃).symm
  · rw [if_neg other]

/-- The body length a request declares, bounded, if it declares one. -/
def declaredLength (fields : List Field) : Option Nat :=
  ((Dict.ofItems fields).get? (ascii "content-length")).map boundedContentLength

/-- Whether a request asks for a tunnel. -/
def isConnect (fields : List Field) : Prop :=
  (Dict.ofItems fields).get? (ascii ":method") = some (ascii "CONNECT")

/-- The state after the first request, apart from the connection and the idle priorities. -/
structure AcceptsRequest (streamId : Nat) (fields : List Field)
    (state after : HTTP2Session κ δ) : Prop where
  shape : ∃ connection prioritizedIdleStreams expectationFailed requestReady, after = { state with
    connection, prioritizedIdleStreams, requestReady
    expectedLength := (declaredLength fields).or state.expectedLength
    capture := { state.capture with
      streamId := some streamId, headers := some fields, expectationFailed }
    history := { state.history with
      accepted := state.history.accepted ++
        [{ state.capture with streamId := some streamId, headers := some fields }] } }
  limited : ∀ declared ∈ declaredLength fields, declared ≤ maxRequestBody
  /-- Only an unknown expectation or a tunnel makes the request ready by itself. -/
  ready : after.requestReady = true → state.requestReady = true ∨
    after.capture.expectationFailed = true ∨ isConnect fields

/-- A declared length within the limit is kept. -/
theorem recordExpectedLength_ok
    (ran : recordExpectedLength packages (Dict.ofItems fields) state = (.ok (), after)) :
    (∀ declared ∈ declaredLength fields, declared ≤ maxRequestBody) ∧
      after = { state with expectedLength := (declaredLength fields).or state.expectedLength } := by
  unfold recordExpectedLength at ran
  unfold declaredLength
  cases found : (Dict.ofItems fields).get? (ascii "content-length") with
  | none =>
    rw [found] at ran
    obtain ⟨-, rfl⟩ := pure_eq_ok.mp ran
    exact ⟨(by intros; contradiction), rfl⟩
  | some value =>
    rw [found] at ran
    simp only [bind_eq_ok, modify_eq_ok, failIf_eq_ok] at ran
    obtain ⟨_, _, rfl, below, rfl⟩ := ran
    refine ⟨fun declared same => ?_, rfl⟩
    rw [← Option.some.inj same]
    exact not_lt.mp below

/-- What accepting a request leaves. -/
theorem acceptRequest_ok (streams : packages.h2.Streams view)
    (ran : acceptRequest packages streamId fields ended state = (.ok (), after)) :
    AcceptsRequest streamId fields state after ∧
      Answers view state.connection after.connection := by
  simp only [acceptRequest, bind_eq_ok, modify_eq_ok] at ran
  obtain ⟨_, _, rfl, _, recorded, ran₁, ran₂⟩ := ran
  obtain ⟨limited, rfl⟩ := recordExpectedLength_ok ran₁
  -- Three ways to go on: an unknown expectation, a tunnel, or an ordinary request.
  split at ran₂
  · obtain rfl := modify_eq_ok.mp ran₂
    exact ⟨⟨⟨_, _, _, _, rfl⟩, limited, fun _ => .inr (.inl rfl)⟩, Answers.refl _⟩
  · cases method : (Dict.ofItems fields).get? (ascii ":method") with
    | none =>
      rw [method] at ran₂
      exact (throw_eq_ok.mp ran₂).elim
    | some value =>
      rw [method] at ran₂
      simp only at ran₂
      split at ran₂
      · rename_i connects
        obtain rfl := modify_eq_ok.mp ran₂
        exact ⟨⟨⟨_, _, _, _, rfl⟩, limited, fun _ => .inr (.inr (by rw [isConnect, method, connects]))⟩,
          Answers.refl _⟩
      · rcases runWhen_eq_ok.mp ran₂ with ⟨-, called⟩ | ⟨-, rfl⟩
        · obtain ⟨connection, rfl, answers⟩ :=
            callH2_answers streams (.headers streamId [(ascii ":status", ascii "100")] false) called
          exact ⟨⟨⟨_, _, _, _, rfl⟩, limited, fun ready => .inl ready⟩, answers⟩
        · exact ⟨⟨⟨_, _, _, _, rfl⟩, limited, fun ready => .inl ready⟩, Answers.refl _⟩

/-- A request is captured if it is the first one, and refused otherwise. -/
theorem processRequest_ok (streams : packages.h2.Streams view)
    (ran : processRequest packages streamId headers ended state = (.ok (), after)) :
    Answers view state.connection after.connection ∧
      (state.capture.streamId.isSome ∧
        (∃ connection prioritizedIdleStreams,
          after = { state with connection, prioritizedIdleStreams }) ∨
      state.capture.streamId = none ∧
        ∃ fields, headers = some fields ∧ validateFields packages fields false = .ok () ∧
          AcceptsRequest streamId fields state after) := by
  simp only [processRequest, bind_eq_ok, modify_eq_ok, get_eq_ok] at ran
  obtain ⟨_, _, rfl, _, _, ⟨rfl, rfl⟩, ran⟩ := ran
  by_cases present : state.capture.streamId.isSome = true
  · rw [if_pos present] at ran
    obtain ⟨connection, rfl, answers⟩ :=
      callH2_answers streams (.reset streamId ErrorCode.refusedStream.code) ran
    exact ⟨answers, .inl ⟨present, _, _, rfl⟩⟩
  · rw [if_neg present] at ran
    simp only [bind_eq_ok] at ran
    obtain ⟨_, counted, ran₁, fields, checked, ran₂, ran₃⟩ := ran
    obtain rfl := checkPriorityLimit_ok ran₁
    obtain ⟨rfl, valid, rfl⟩ := validateEvent_ok ran₂
    obtain ⟨accepts, answers⟩ := acceptRequest_ok streams ran₃
    -- Counting the open streams leaves all of them as they are.
    have counting : Answers view state.connection { state.connection with
        core := (packages.h2.openInboundStreams state.connection.core).2 } :=
      ⟨by simp only [streams.opens]; exact H2.View.Settles.refl _, rfl⟩
    refine ⟨counting.trans answers, .inr ⟨by simpa using present, fields, rfl, valid, ?_⟩⟩
    obtain ⟨⟨connection, idle, failed, ready, shape⟩, limited, byItself⟩ := accepts
    exact ⟨⟨connection, idle, failed, ready, shape⟩, limited, byItself⟩

/-! ### A frame shown to the library -/

/-- The octets shown for a frame stand for it, apart from priority and padding. -/
structure Stands (frame : ParsedFrame) (shown : Bytes) (payload : Payload) : Prop where
  framed : IsWireFrame shown
  encodes : Encodes (headerOf shown) (shown.drop frameHeaderSize) payload
  streamId : (headerOf shown).streamId = frame.header.streamId
  gathers : ∀ block streamId, gather block streamId payload = gather block streamId frame.payload
  same : payload = frame.payload ∨
    (∃ fields, payload = .headers fields) ∧ ∃ fields, frame.payload = .headers fields

/-- The flags of a rebuilt HEADERS frame. -/
theorem rebuilt_flags (streamId : Nat) (fields : HeadersPayload) :
    (headerOf (rebuiltHeaders streamId fields)).has endStream = fields.endStream ∧
    (headerOf (rebuiltHeaders streamId fields)).has endHeaders = fields.endHeaders ∧
    (headerOf (rebuiltHeaders streamId fields)).has priority = false ∧
    (headerOf (rebuiltHeaders streamId fields)).has padded = false :=
  headersBytes_flags streamId fields.headerBlock fields.endStream fields.endHeaders

/-- What is shown stands for the frame. -/
theorem stands_shown {wire shown : Bytes} (captured : HTTP2FrameReader.Captured wire frame)
    (encodes : Encodes frame.header (frame.raw.drop frameHeaderSize) frame.payload)
    (converted : wireForH2 frame wire = .ok shown) : ∃ payload, Stands frame shown payload := by
  have framed := isWireFrame_wireForH2 captured.framed converted
  unfold wireForH2 at converted
  by_cases prioritized : frame.header.kind = some .headers ∧ frame.header.has priority
  · -- The frame is rebuilt from its block, with the two flags that matter.
    rw [if_pos prioritized] at converted
    cases decoded : frame.payload <;> simp only [decoded] at converted
    case headers fields =>
      rw [liftBuilder_eq_ok] at converted
      obtain rfl := buildHeadersFrame_ok converted
      have bounded : frame.header.streamId < 2 ^ 31 := by
        rw [captured.header]
        exact Nat.mod_lt _ (by decide)
      have header := headerOf_frameBytes FrameType.headers.code
        ((if fields.endStream then endStream else 0) |||
          (if fields.endHeaders then endHeaders else 0)) frame.header.streamId
        fields.headerBlock
      obtain ⟨ended, complete, unprioritized, unpadded⟩ := rebuilt_flags frame.header.streamId fields
      refine ⟨.headers {
        headerBlock := fields.headerBlock
        priority := none
        endStream := (headerOf (rebuiltHeaders frame.header.streamId fields)).has
          endStream
        endHeaders := (headerOf (rebuiltHeaders frame.header.streamId fields)).has
          endHeaders
        padded := (headerOf (rebuiltHeaders frame.header.streamId fields)).has padded },
        framed, ?_, ?_, fun block streamId => ?_, .inr ⟨⟨_, rfl⟩, fields, decoded⟩⟩
      · have body : (rebuiltHeaders frame.header.streamId fields).drop frameHeaderSize =
            fields.headerBlock := drop_frameBytes ..
        rw [body]
        refine .headers ?_ unprioritized (.plain unpadded)
        rw [FrameHeader.kind, rebuiltHeaders, header]
        rfl
      · rw [rebuiltHeaders, header]
        show frame.header.streamId % 256 ^ 4 % 2 ^ 31 = frame.header.streamId
        omega
      · rw [decoded, gather, gather, ended, complete]
    all_goals cases converted
  · rw [if_neg prioritized] at converted
    obtain rfl := Except.ok.inj converted
    rw [captured.raw, captured.header] at encodes
    exact ⟨frame.payload, framed, encodes, by rw [captured.header], fun _ _ => rfl, .inl rfl⟩

/-- A part of the same frame draws the same reaction. -/
theorem Stands.reacts {shown : Bytes} {payload : Payload} (stands : Stands frame shown payload)
    {before after : View} {events : List Event}
    (reacts : Reacts (headerOf shown).streamId payload before events after) :
    Reacts frame.header.streamId frame.payload before events after := by
  rw [stands.streamId] at reacts
  rcases stands.same with rfl | ⟨⟨fields, rfl⟩, original, decoded⟩
  · exact reacts
  · -- Both are HEADERS frames, so the reaction depends on the gathered block alone.
    have gathers := stands.gathers
    cases reacts with
    | aside other outside between settles => exact absurd rfl (outside fields)
    | data content opened => cases content
    | discarded content closed => cases content
    | fragment gathered => exact .fragment (gathers .. ▸ gathered)
    | request gathered opens => exact .request (gathers .. ▸ gathered) opens
    | trailers gathered opened ends => exact .trailers (gathers .. ▸ gathered) opened ends
    | ignored gathered closed => exact .ignored (gathers .. ▸ gathered) closed

end HTTP2Session

end SolveTls
