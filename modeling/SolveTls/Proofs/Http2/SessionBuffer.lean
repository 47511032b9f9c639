import SolveTls.Proofs.Http2.SessionSteps

/-! Processing a frame looks neither at the octets behind it nor at how many have arrived. -/

namespace SolveTls.HTTP2Session

open Fallible

variable {κ δ α : Type} {packages : Packages κ δ} {buffer : Bytes} {captureBytes : Nat}

/-- A method that does not look at the receive buffer. -/
abbrev Unbuffered (buffer : Bytes) (captureBytes : Nat) (α : Type) (action : SessionM κ δ α) :
    Prop :=
  Commutes (rebuffer buffer captureBytes) action

/-- A write goes by its script alone. -/
theorem unbuffered_transportWrite (frames : List WireFrame) :
    Unbuffered buffer captureBytes Unit (transportWrite frames : SessionM κ δ Unit) := by
  intro state
  simp only [transportWrite, handOver, rebuffer]
  -- Each of the three endings of a write leaves the buffer where it is.
  cases state.transport.writes.headD .sent <;> rfl

/-- So does a write of the error handler. -/
theorem unbuffered_transportReject (frames : List WireFrame) :
    Unbuffered buffer captureBytes Unit (transportReject frames : SessionM κ δ Unit) := by
  intro state
  simp only [transportReject, handOver, rebuffer]
  cases state.transport.rejections.headD .sent <;> rfl

/-- A pause goes by its script alone. -/
theorem unbuffered_pause :
    Unbuffered buffer captureBytes Unit (pause : SessionM κ δ Unit) := by
  intro state
  simp only [pause, rebuffer]
  cases state.transport.pauses.headD none <;> rfl

/-- Talking to the connection and the transport does not touch the receive buffer. -/
theorem talking_unbuffered : Talking (Unbuffered (κ := κ) (δ := δ) buffer captureBytes) where
  toComposed := composed_commutes
  looks same later := commutes_get_bind (same _ _) later
  throws := commutes_throw
  connects _ _ := rfl
  writes := unbuffered_transportWrite
  rejects := unbuffered_transportReject
  pauses := unbuffered_pause
  errs := commutes_modify fun _ => rfl
  closes := commutes_modify fun _ => rfl
  applies _ := commutes_modify fun _ => rfl

/-- Nothing that is noted about a request depends on the receive buffer. -/
theorem reacting_unbuffered : Reacting packages (Unbuffered buffer captureBytes) where
  toChecking := talking_unbuffered.checking
  acknowledges _ _ _ := rfl
  notes note := commutes_modify fun _ => by cases note <;> rfl

/-- Events are dealt with in the same way whatever comes after them. -/
theorem unbuffered_processEvents (events : List Event) :
    Unbuffered buffer captureBytes Unit (processEvents packages events) := by
  have reacting : Reacting packages (Unbuffered buffer captureBytes) := reacting_unbuffered
  refine reacting.on_processEvents events fun event _ => reacting.on_processEvent event ?_ ?_
  · intro streamId headers streamEnded _
    refine reacting.on_processRequest reacting.leading headers (commutes_modify fun _ => rfl)
      (talking_unbuffered.connects _) fun fields => ?_
    -- The request is captured as it is, and then answered.
    refine reacting.on_acceptRequest _ reacting.leading _ _ _ ?_ fun _ _ =>
      talking_unbuffered.connects _
    exact fun next later => commutes_bind (commutes_modify fun _ => rfl) fun _ => later
  · intro streamId headers _
    exact reacting.on_processTrailers (fun _ => commutes_modify fun _ => rfl) streamId headers

/-- A frame is passed on in the same way whatever comes after it. -/
theorem unbuffered_deliverFrame (frame : ParsedFrame) (wire : Bytes) :
    Unbuffered buffer captureBytes Unit (deliverFrame packages frame wire) := by
  have talking : Talking (Unbuffered (κ := κ) (δ := δ) buffer captureBytes) := talking_unbuffered
  refine commutes_bind (composed_commutes.on_fromExcept fun _ _ => commutes_throw _) fun shown =>
    commutes_bind (commutes_tryCatch ?_ talking.on_handleProtocolError) fun _ =>
      commutes_bind talking.on_flush fun _ => composed_commutes.on_runWhen fun _ => unbuffered_pause
  refine talking.applying.on_deliver talking.leading frame
    (fun _ => commutes_modify fun _ => rfl) ?_
  exact commutes_bind (commutes_modify fun _ => rfl) fun _ =>
    commutes_bind (talking.connects _) unbuffered_processEvents

/-- A captured frame is processed in the same way whatever comes after it. -/
theorem unbuffered_processFrame (frame : ParsedFrame) (wire : Bytes) :
    Unbuffered buffer captureBytes Unit (processFrame packages frame wire) := by
  have talking : Talking (Unbuffered (κ := κ) (δ := δ) buffer captureBytes) := talking_unbuffered
  have checking : Checking packages (Unbuffered buffer captureBytes) := talking.checking
  refine checking.on_processFrame
    (fun note => commutes_modify fun _ => by cases note <;> rfl) _
    (fun next later => commutes_bind (commutes_modify fun _ => rfl) fun _ => later)
    (checking.on_checkFirstFrame frame (commutes_modify fun _ => rfl)
      fun _ => commutes_modify fun _ => rfl) ?_
    (reacting_unbuffered.on_processParsed (unbuffered_deliverFrame frame wire) fun streamId =>
      checking.on_processPriorityUpdate streamId (commutes_modify fun _ => rfl))
  -- Any code at all may be failed with.
  unfold rejectMalformed
  cases parseFault frame.payload with
  | none => exact commutes_pure ()
  | some fault => exact talking.on_fail _ _

/-- A complete frame is received in the same way whatever comes after it. -/
theorem unbuffered_receiveFrame (wire : Bytes) (maximum : Nat) :
    Unbuffered buffer captureBytes Unit (receiveFrame packages wire maximum) := by
  refine commutes_get_bind (fun _ => rfl) fun state => ?_
  dsimp only
  rcases HTTP2FrameReader.parseFrame (HTTP2FrameReader.create wire maximum false true
      (some ((maxCaptureEntries : Int) - state.captureEntries))) with ⟨error | frame, reader⟩
  · exact talking_unbuffered.on_fail _ _
  · refine commutes_bind (commutes_modify fun _ => rfl) fun _ =>
      commutes_get_bind (fun _ => rfl) fun _ => commutes_bind ?_ fun _ =>
        commutes_bind (commutes_modify fun _ => rfl) fun _ => unbuffered_processFrame frame wire
    exact talking_unbuffered.checking.on_failIf _ _ (by decide)

end SolveTls.HTTP2Session
