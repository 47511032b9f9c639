import SolveTls.Proofs.Http2.FrameReading
import SolveTls.Proofs.Http2.SessionEffects

/-! What processing and receiving one frame can change, on every path it may take. -/

namespace SolveTls.HTTP2Session

open Fallible

variable {κ δ α : Type} {packages : Packages κ δ}
variable {before after : HTTP2Session κ δ} {action : SessionM κ δ α} {wire : Bytes} {maximum : Nat}

/-! ### Processing one frame -/

/-- What the processing of one frame leaves alone on every exit. -/
structure Processing (before after : HTTP2Session κ δ) : Prop where
  buffer : after.buffer = before.buffer
  captureBytes : after.captureBytes = before.captureBytes
  captureEntries : after.captureEntries = before.captureEntries
  frames : after.capture.frames = before.capture.frames
  initialized : after.initialized = before.initialized
  reads : after.transport.reads = before.transport.reads
  processed : after.history.processed = before.history.processed
  idle : after.history.idle = before.history.idle
  settled : before.firstFrame = false →
    after.firstFrame = false ∧ after.capture.initialSettings = before.capture.initialSettings
  closed : before.closed = true → after.closed = true
  cancelled : before.cancelled = true → after.cancelled = true

theorem processing : Progress (Processing (κ := κ) (δ := δ)) where
  refl _ := ⟨rfl, rfl, rfl, rfl, rfl, rfl, rfl, rfl, fun settled => ⟨settled, rfl⟩, id, id⟩
  trans first second := by
    refine ⟨second.buffer.trans first.buffer, second.captureBytes.trans first.captureBytes,
      second.captureEntries.trans first.captureEntries, second.frames.trans first.frames,
      second.initialized.trans first.initialized, second.reads.trans first.reads,
      second.processed.trans first.processed, second.idle.trans first.idle, ?_,
      second.closed ∘ first.closed, second.cancelled ∘ first.cancelled⟩
    -- The initial settings are fixed from the first frame on.
    intro settled
    obtain ⟨still, same⟩ := first.settled settled
    obtain ⟨still', same'⟩ := second.settled still
    exact ⟨still', same'.trans same⟩

theorem Handling.processing (same : Handling before after) :
    Processing before after :=
  ⟨same.buffer, same.captureBytes, same.captureEntries, same.frames, same.initialized, same.reads,
    same.processed, same.idle, fun settled => ⟨same.firstFrame.trans settled, same.initialSettings⟩,
    same.closed, same.cancelled⟩

theorem processing_of_handling (within : Within Handling action) :
    Within Processing action :=
  within.mono fun _ _ same => same.processing

theorem processing_of_outbound (within : Within Outbound action) :
    Within Processing action :=
  processing_of_handling (handling_of_outbound within)

/-- The notes about a request and its events are part of processing a frame. -/
theorem reacting_processing : Reacting packages fun _ action => Within Processing action :=
  reacting_within processing (fun _ _ same => same.handling.processing) fun note state => by
    have kept : state.cancelled = true → (note.write state).cancelled = true := by
      cases note with
      | cancels => exact fun _ => rfl
      | _ => exact id
    cases note <;>
      exact ⟨rfl, rfl, rfl, rfl, rfl, rfl, rfl, rfl, fun settled => ⟨settled, rfl⟩, id, kept⟩

/-- A frame is passed on, and what it queued is sent, without touching the capture. -/
theorem processing_deliverFrame (frame : ParsedFrame) (wire : Bytes) :
    Within Processing (deliverFrame packages frame wire) := by
  have records : ∀ item, Within Processing (recordHanded item : SessionM κ δ Unit) := fun _ =>
    within_modify fun _ => ⟨rfl, rfl, rfl, rfl, rfl, rfl, rfl, rfl, fun settled => ⟨settled, rfl⟩, id, id⟩
  have applying : Applying packages fun _ action => Within Processing action :=
    talking_outbound.applying.mono (looking_within processing) processing_of_outbound
  refine processing.within_bind 
    (processing.composed_within.on_fromExcept fun _ _ => processing.within_throw _) fun _ =>
    processing.within_bind (processing.within_tryCatch ?_ fun _ =>
      processing_of_outbound (outbound_handleProtocolError _)) fun _ =>
        processing.within_bind (processing_of_outbound outbound_flush) fun _ =>
          processing.within_runWhen _ (processing_of_outbound outbound_pause)
  -- The octets are noted, taken by the connection, and its events are dealt with.
  refine applying.on_deliver applying.leading frame records ?_
  exact processing.within_bind (records _) fun _ =>
    processing.within_bind (processing_of_outbound (outbound_onConnection _)) fun _ =>
      processing_of_handling (handling_processEvents _)

/-- Only the first frame can change the initial settings. -/
theorem processing_checkFirstFrame (frame : ParsedFrame) :
    Within Processing (checkFirstFrame packages frame) := by
  intro state
  unfold checkFirstFrame
  refine processing.bind_at (processing.refl state) fun self reached ran => ?_
  obtain ⟨rfl, rfl⟩ := get_eq_ok.mp ran
  by_cases first : state.firstFrame = true
  · rw [runWhen_pos first]
    refine processing.bind_at (processing_of_outbound (outbound_failIf _ _ _) state)
      fun _ checked ran => ?_
    obtain ⟨-, rfl⟩ := failIf_eq_ok.mp ran
    -- This was the first frame, so nothing had been settled before it.
    have unsettled : state.firstFrame ≠ false := by simp [first]
    simp only [bind_apply, modify_apply]
    cases frame.payload with
    | settings payload =>
      exact ⟨rfl, rfl, rfl, rfl, rfl, rfl, rfl, rfl, fun settled => absurd settled unsettled, id, id⟩
    | _ => exact ⟨rfl, rfl, rfl, rfl, rfl, rfl, rfl, rfl, fun settled => absurd settled unsettled, id, id⟩
  · rw [runWhen_neg first]
    exact processing.refl state

/-- The state in which a frame has been noted as one that is processed. -/
def noting (state : HTTP2Session κ δ) (frame : ParsedFrame) (wire : Bytes) : HTTP2Session κ δ :=
  { state with
    history := { state.history with
      processed := state.history.processed ++ [(frame, wire)]
      idle := state.history.idle && state.connection.outgoing.isEmpty } }

/-- Once a frame is noted, its processing leaves the capture and the notes alone. -/
theorem processing_processFrame (packages : Packages κ δ) (frame : ParsedFrame) (wire : Bytes)
    (state : HTTP2Session κ δ) :
    Processing (noting state frame wire) (processFrame packages frame wire state).2 := by
  have reacting : Reacting packages fun _ action => Within Processing action := reacting_processing
  refine reacting.on_processFrame ?_
    (fun action => Processing (noting state frame wire) (action state).2) (fun _ later => later _)
    (processing_checkFirstFrame frame) ?_
    (reacting.on_processParsed (processing_deliverFrame frame wire) fun streamId =>
      reacting.on_processPriorityUpdate streamId ?_)
  · intro note
    cases note <;> exact within_modify fun _ =>
      ⟨rfl, rfl, rfl, rfl, rfl, rfl, rfl, rfl, fun settled => ⟨settled, rfl⟩, id, id⟩
  · -- Any code at all may be failed with.
    unfold rejectMalformed
    cases parseFault frame.payload with
    | none => exact processing.within_pure ()
    | some fault => exact processing_of_outbound (outbound_fail _ _)
  · exact within_modify fun _ =>
      ⟨rfl, rfl, rfl, rfl, rfl, rfl, rfl, rfl, fun settled => ⟨settled, rfl⟩, id, id⟩

/-! ### Receiving one frame -/

/-- How one complete wire frame changes the capture, on every exit. -/
structure Received (wire : Bytes) (before after : HTTP2Session κ δ) : Prop where
  buffer : after.buffer = before.buffer
  captureBytes : after.captureBytes = before.captureBytes
  initialized : after.initialized = before.initialized
  reads : after.transport.reads = before.transport.reads
  closed : before.closed = true → after.closed = true
  cancelled : before.cancelled = true → after.cancelled = true
  grows : before.captureEntries ≤ after.captureEntries
  budget : before.captureEntries ≤ maxCaptureEntries → after.captureEntries ≤ maxCaptureEntries
  kept : after.capture.frames = before.capture.frames ∨
    ∃ frame, HTTP2FrameReader.Captured wire frame ∧
      after.capture.frames = before.capture.frames ++ [frame] ∧
      before.capture.frames.length < maxCaptureFrames ∧
      frame.payload.entryCount ≤
        reservedEntries (headerOf wire) (wire.drop frameHeaderSize) ∧
      after.captureEntries = before.captureEntries +
        reservedEntries (headerOf wire) (wire.drop frameHeaderSize)
  noted : after.history.processed = before.history.processed ∧
      after.history.idle = before.history.idle ∨
    ∃ frame, HTTP2FrameReader.Captured wire frame ∧
      after.history.processed = before.history.processed ++ [(frame, wire)] ∧
      after.history.idle = (before.history.idle && before.connection.outgoing.isEmpty)

/-- Raising an error after the frame was taken changes nothing of the capture. -/
theorem Outbound.received (same : Outbound before after) (wire : Bytes) :
    Received wire before after := by
  obtain ⟨⟨connection, transport, closed, applied, errors, rfl⟩, reads, kept⟩ := same
  exact ⟨rfl, rfl, rfl, reads, kept, id, le_refl _, id, .inl rfl, .inl ⟨rfl, rfl⟩⟩

/-- Processing a frame that was received leaves the capture as it is. -/
theorem Received.processing {middle : HTTP2Session κ δ} (received : Received wire before middle)
    (processed : Processing middle after) :
    Received wire before after := by
  refine ⟨processed.buffer.trans received.buffer,
    processed.captureBytes.trans received.captureBytes,
    processed.initialized.trans received.initialized, processed.reads.trans received.reads,
    processed.closed ∘ received.closed, processed.cancelled ∘ received.cancelled, ?_, ?_, ?_, ?_⟩
  · rw [processed.captureEntries]
    exact received.grows
  · rw [processed.captureEntries]
    exact received.budget
  · rw [processed.captureEntries, processed.frames]
    exact received.kept
  · rw [processed.processed, processed.idle]
    exact received.noted

/-- Capturing a frame charges its entries, keeps it within the limit and then processes it. -/
theorem captureFrame_received {frame : ParsedFrame} {entriesRead : Nat}
    (captured : HTTP2FrameReader.Captured wire frame)
    (counted : frame.payload.entryCount ≤ entriesRead)
    (reserved : entriesRead = reservedEntries (headerOf wire) (wire.drop frameHeaderSize))
    (state : HTTP2Session κ δ)
    (affordable : state.captureEntries ≤ maxCaptureEntries →
      state.captureEntries + entriesRead ≤ maxCaptureEntries) :
    Received wire state (captureFrame packages frame entriesRead wire state).2 := by
  unfold captureFrame
  -- The entries are charged first, whether or not the frame is kept.
  have charged : Received wire state
      { state with captureEntries := state.captureEntries + entriesRead } :=
    ⟨rfl, rfl, rfl, rfl, id, id, Nat.le_add_right _ _, affordable, .inl rfl, .inl ⟨rfl, rfl⟩⟩
  simp only [bind_apply, modify_apply, get_apply]
  refine bind_ends (fun raised reached ran => ?_) fun _ reached ran => ?_
  · exact charged.processing ((outbound_failIf _ _ _).reached ran).handling.processing
  · obtain ⟨below, rfl⟩ := failIf_eq_ok.mp ran
    -- Below the limit the frame is kept, and processing it cannot remove it again.
    have kept : Received wire state (noting { state with
        captureEntries := state.captureEntries + entriesRead
        capture := { state.capture with frames := state.capture.frames ++ [frame] } } frame wire) :=
      ⟨rfl, rfl, rfl, rfl, id, id, Nat.le_add_right _ _, affordable,
        .inr ⟨frame, captured, rfl, not_le.mp below, reserved ▸ counted, reserved ▸ rfl⟩,
        .inr ⟨frame, captured, rfl, rfl⟩⟩
    exact kept.processing (processing_processFrame packages frame wire _)

/-- Whatever becomes of a complete frame, the capture stays lossless and within its budgets. -/
theorem receiveFrame_received (framed : IsWireFrame wire)
    (fits : (headerOf wire).length ≤ maximum) :
    Within (Received wire) (receiveFrame packages wire maximum) := by
  intro state
  simp only [receiveFrame, bind_apply, get_apply]
  rcases HTTP2FrameReader.parseFrame_cases framed fits with
    ⟨frame, reader, parsed, captured, counted, reserved, spent⟩ | ⟨error, reader, parsed, -⟩
  · rw [parsed]
    refine captureFrame_received captured counted reserved state fun within => ?_
    -- The budget handed to the reader was what the session had left.
    have left := spent _ rfl (by omega)
    omega
  · rw [parsed]
    exact (outbound_fail _ _ _).received wire

/-- The state in which a captured frame begins to be processed. -/
def capturing (state : HTTP2Session κ δ) (frame : ParsedFrame) (entries : Nat) : HTTP2Session κ δ :=
  { state with
    captureEntries := state.captureEntries + entries
    capture := { state.capture with frames := state.capture.frames ++ [frame] } }

/-- A frame is refused over one of the budgets, or it is captured and processed. -/
theorem receiveFrame_cases (framed : IsWireFrame wire) (fits : (headerOf wire).length ≤ maximum)
    (state : HTTP2Session κ δ) :
    (∃ raised after captureEntries, receiveFrame packages wire maximum state = (.error raised, after) ∧
      Outbound { state with captureEntries } after) ∨
    ∃ frame, HTTP2FrameReader.Captured wire frame ∧
      receiveFrame packages wire maximum state = processFrame packages frame wire
        (capturing state frame (reservedEntries (headerOf wire) (wire.drop frameHeaderSize))) := by
  simp only [receiveFrame, bind_apply, get_apply]
  rcases HTTP2FrameReader.parseFrame_cases framed fits with
    ⟨frame, reader, parsed, captured, -, reserved, -⟩ | ⟨error, reader, parsed, -⟩
  · rw [parsed]
    simp only [captureFrame, bind_apply, modify_apply, get_apply]
    -- The entries are charged before the frames are counted.
    by_cases full : state.capture.frames.length ≥ maxCaptureFrames
    · obtain ⟨raised, after, ran, same⟩ := fail_raises (α := Unit) packages
        "HTTP/2 frame count limit exceeded" ErrorCode.enhanceYourCalm.code
        { state with captureEntries := state.captureEntries + reader.entriesRead }
      rw [failIf_pos full, ran]
      exact .inl ⟨raised, after, _, rfl, same⟩
    · rw [failIf_neg full]
      simp only [pure_apply, reserved]
      exact .inr ⟨frame, captured, rfl⟩
  · rw [parsed]
    obtain ⟨raised, after, ran, same⟩ := fail_raises (α := Unit) packages error.message error.code state
    exact .inl ⟨raised, after, state.captureEntries, ran, same⟩

/-- A call that returned has captured the frame and processed it to the end. -/
theorem receiveFrame_ok {state : HTTP2Session κ δ} (framed : IsWireFrame wire)
    (fits : (headerOf wire).length ≤ maximum)
    (ran : receiveFrame packages wire maximum state = (.ok (), after)) :
    ∃ frame, HTTP2FrameReader.Captured wire frame ∧
      processFrame packages frame wire (capturing state frame
        (reservedEntries (headerOf wire) (wire.drop frameHeaderSize))) = (.ok (), after) := by
  rcases receiveFrame_cases framed fits state with
    ⟨raised, reached, entries, failed, -⟩ | ⟨frame, captured, processed⟩
  · rw [failed] at ran
    cases (Prod.mk.inj ran).1
  · exact ⟨frame, captured, processed.symm.trans ran⟩

end SolveTls.HTTP2Session
