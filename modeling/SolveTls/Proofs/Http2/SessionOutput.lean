import SolveTls.Http2.ResponseSending
import SolveTls.Proofs.Http2.SessionDealing

/-! What kinds of frames are queued and written, on every exit of a received chunk. -/

namespace SolveTls.HTTP2Session

open Fallible Exits List

variable {κ δ α : Type} {packages : Packages κ δ} {quality : WireFrame → Prop}
variable {before after : HTTP2Session κ δ} {frames : List WireFrame}

/-! ### Frames of one kind -/

/-- Frames that are added are all of a kind, if those that were queued before are. -/
def Adds (quality : WireFrame → Prop) (before after : HTTP2Session κ δ) : Prop :=
  (∀ frame ∈ before.connection.outgoing, quality frame) →
    (∀ frame ∈ after.connection.outgoing, quality frame) ∧
    ∃ batches, after.transport.written = before.transport.written ++ batches ∧
      ∀ frame ∈ batches.flatten, quality frame

/-- Frames may be added any number of times. -/
theorem adds : Progress (Adds (κ := κ) (δ := δ) quality) where
  refl state queued := ⟨queued, [], (append_nil _).symm, by simp⟩
  trans {first middle last} earlier later := by
    intro queued
    obtain ⟨queued', batches, written, fine⟩ := earlier queued
    obtain ⟨queued'', batches', written', fine'⟩ := later queued'
    -- What is written later comes behind what was written before.
    refine ⟨queued'', batches ++ batches', ?_, ?_⟩
    · rw [written', written, append_assoc]
    · rw [flatten_append]
      exact forall_mem_append.mpr ⟨fine, fine'⟩

/-- Neither the queue nor the output has changed. -/
theorem Adds.of_eq (outgoing : after.connection.outgoing = before.connection.outgoing)
    (written : after.transport.written = before.transport.written) : Adds quality before after := by
  intro queued
  rw [outgoing, written]
  exact adds.refl before queued

/-- Frames were queued behind those that were queued before. -/
theorem Adds.of_queued (outgoing : after.connection.outgoing = before.connection.outgoing ++ frames)
    (written : after.transport.written = before.transport.written)
    (fine : ∀ frame ∈ frames, quality frame) : Adds quality before after := by
  intro queued
  refine ⟨?_, [], ?_, by simp⟩
  · rw [outgoing]
    exact forall_mem_append.mpr ⟨queued, fine⟩
  · rw [written, append_nil]

/-- A call adds what it queues. -/
theorem adds_callH2 {method : H2 κ → κ → H2Call κ α}
    (ends : ∀ core, (method packages.h2 core).Ends fun _ _ queued =>
      ∀ frame ∈ queued, quality frame) :
    Within (Adds quality) (callH2 packages method) := by
  intro state
  obtain ⟨core, queued, decoder, encoder, calls, fine, shape⟩ :=
    callH2_ends method state (ends state.connection.core)
  rw [shape]
  exact Adds.of_queued rfl rfl fine

/-- So does receiving something. -/
theorem adds_receiveData {wire : Bytes}
    (ends : ∀ core, (packages.h2.receiveData core wire).Ends fun _ _ queued =>
      ∀ frame ∈ queued, quality frame) :
    Within (Adds quality) (onConnection (H2Adapter.receiveData packages wire)) := by
  intro state
  obtain ⟨result, core, queued, decoder, encoder, calls, fine, shape⟩ :=
    receiveData_ends state (ends state.connection.core)
  rw [shape]
  exact Adds.of_queued rfl rfl fine

/-- What is handed over was queued. -/
theorem adds_handOver (outcome : WriteOutcome) (fine : ∀ frame ∈ frames, quality frame) :
    Within (Adds quality) (handOver outcome frames : SessionM κ δ Unit) := by
  intro state queued
  have flattened : ∀ frame ∈ [frames].flatten, quality frame := by
    simpa using fine
  -- Two of the three endings hand the frames over.
  cases outcome with
  | sent => exact ⟨queued, [frames], rfl, flattened⟩
  | sentThenRaised raised => exact ⟨queued, [frames], rfl, flattened⟩
  | refused raised => exact adds.refl state queued

/-- A write hands over what it is given. -/
theorem adds_transportWrite (fine : ∀ frame ∈ frames, quality frame) :
    Within (Adds quality) (transportWrite frames : SessionM κ δ Unit) := by
  intro state
  -- The script moves on, and the write ends as it said.
  refine adds.trans ?_ (adds_handOver _ fine _)
  exact Adds.of_eq rfl rfl

/-- So does the write of a refusal. -/
theorem adds_transportReject (fine : ∀ frame ∈ frames, quality frame) :
    Within (Adds quality) (transportReject frames : SessionM κ δ Unit) := by
  intro state
  -- The script moves on, and the write ends as it said.
  refine adds.trans ?_ (adds_handOver _ fine _)
  exact Adds.of_eq rfl rfl

/-- What is taken off the queue may be sent, because it is of the kind. -/
theorem adds_taken {send : List WireFrame → SessionM κ δ Unit}
    (sends : ∀ frames, (∀ frame ∈ frames, quality frame) → Within (Adds quality) (send frames)) :
    Within (Adds quality) (do let frames ← onConnection H2Adapter.dataToSend; send frames) := by
  intro state queued
  have emptied : ∀ frame ∈ ({ state with
      connection := { state.connection with outgoing := [] } } :
      HTTP2Session κ δ).connection.outgoing, quality frame := by
    simp
  exact sends state.connection.outgoing queued
    { state with connection := { state.connection with outgoing := [] } } emptied

/-- Sending adds nothing that was not queued. -/
theorem adds_flush : Within (Adds quality) (flush : SessionM κ δ Unit) :=
  adds_taken fun _ fine => adds.within_runWhen _ (adds_transportWrite fine)

/-- Emptying the queue adds nothing. -/
theorem adds_drain :
    Within (Adds quality) (onConnection H2Adapter.dataToSend : SessionM κ δ (List WireFrame)) := by
  intro state queued
  refine ⟨?_, [], (append_nil _).symm, by simp⟩
  intro frame among
  cases among

/-- Nor does a pause. -/
theorem adds_pause : Within (Adds quality) (pause : SessionM κ δ Unit) := by
  intro state
  unfold pause
  cases state.transport.pauses.headD none <;> exact Adds.of_eq rfl rfl

/-- Nor does the note of an error. -/
theorem adds_recordError : Within (Adds quality) (recordError : SessionM κ δ Unit) :=
  within_modify fun _ => Adds.of_eq rfl rfl

/-- A handled error sends what is queued. -/
theorem adds_handleProtocolError (raised : Exn) :
    Within (Adds quality) (handleProtocolError raised : SessionM κ δ Unit) := by
  cases raised with
  | protocolError message code =>
    refine adds.within_bind adds.within_get fun _ => adds.within_bind ?_ fun _ =>
      adds.within_throw _
    refine adds.within_runWhen _ (adds_taken fun frames fine => adds.within_runWhen _ ?_)
    exact adds.within_bind (adds_transportReject fine) fun _ =>
      within_modify fun _ => Adds.of_eq rfl rfl
  | _ => exact adds.within_throw _

/-! ### Kinds that everything but a response belongs to -/

section Apart

variable (queues : packages.h2.Queues)
  (admits : ∀ frame, H2.isResponse frame = false → quality frame)

include queues admits

/-- A GOAWAY is of the kind. -/
theorem adds_goaway (errorCode : Nat) (lastStreamId : Option Nat) :
    Within (Adds quality) (callH2 packages (Outcall.goaway errorCode lastStreamId).method) := by
  refine adds_callH2 fun core => (queues.closes core errorCode lastStreamId).mono ?_
  rintro result core' queued ⟨-, last, rfl⟩ frame among
  obtain rfl := mem_singleton.mp among
  exact admits _ rfl

/-- So is all that closing sends. -/
theorem adds_close (errorCode : Nat) : Within (Adds quality) (close packages errorCode) := by
  refine adds.within_bind adds.within_get fun self =>
    adds.within_bind (adds.within_runWhen _ ?_) fun _ => adds_flush
  exact adds.within_bind (adds_goaway queues admits errorCode _) fun _ =>
    within_modify fun _ => Adds.of_eq rfl rfl

/-- So is all that failing sends. -/
theorem adds_fail (message : String) (errorCode : Nat) :
    Within (Adds quality) (fail packages message errorCode : SessionM κ δ α) :=
  adds.within_bind adds_recordError fun _ =>
    adds.within_bind (adds_close queues admits errorCode) fun _ => adds.within_throw _

/-- So is all that is queued on receiving. -/
theorem adds_received (wire : Bytes) :
    Within (Adds quality) (onConnection (H2Adapter.receiveData packages wire)) := by
  refine adds_receiveData fun core => (queues.receives core wire).mono ?_
  rintro result core' queued (⟨plain, -⟩ | ⟨message, code, answers, last, -, -, plain, rfl⟩)
    frame among
  · exact admits frame (plain frame among).1
  · -- Octets that are refused are answered with a GOAWAY, which is no part of a response.
    rcases mem_append.mp among with among | among
    · exact admits frame (plain frame among).1
    · obtain rfl := mem_singleton.mp among
      exact admits _ rfl

end Apart

/-! ### Every exit of a received chunk -/

/-- As long as the gate is open it stays open, and frames of one kind are added. -/
def Gated (gate : HTTP2Session κ δ → Prop) (quality : WireFrame → Prop)
    (before after : HTTP2Session κ δ) : Prop :=
  gate before → gate after ∧ Adds quality before after

variable {gate : HTTP2Session κ δ → Prop}

/-- Gated steps may follow one another. -/
theorem gated : Progress (Gated gate quality) where
  refl state open' := ⟨open', adds.refl state⟩
  trans earlier later open' :=
    ⟨(later (earlier open').1).1, adds.trans (earlier open').2 (later (earlier open').1).2⟩

/-- A gate that depends on nothing but whether there is a request yet. -/
def Lasting (gate : HTTP2Session κ δ → Prop) : Prop := ∀ before after : HTTP2Session κ δ,
  (before.capture.streamId.isSome = true → after.capture.streamId.isSome = true) →
    gate before → gate after

/-- Output does not touch the gate. -/
theorem gated_outbound (lasting : Lasting gate) {action : SessionM κ δ α}
    (outbound : Within Outbound action) (added : Within (Adds quality) action) :
    Within (Gated gate quality) action := by
  intro state open'
  refine ⟨lasting _ _ ?_ open', added state⟩
  rw [(outbound state).capture]
  exact id

section Gated

variable (queues : packages.h2.Queues) (lasting : Lasting gate)
  (admits : ∀ frame, H2.isResponse frame = false → quality frame)

include queues lasting admits

/-- All that a session does is gated. -/
theorem tending_gated : Tending packages (alike (Gated gate quality)) where
  toChained := chained_alike gated
  notes := by
    intro before after connection transport _ _ captured open'
    exact ⟨lasting _ _ captured open', Adds.of_eq (by rw [connection]) (by rw [transport])⟩
  throws state _ _ := gated.refl state
  validates _ _ := gated.refl _
  resets := by
    intro streamId errorCode
    refine covers_alike.mpr (gated_outbound lasting (outbound_callH2 _) (adds_callH2 fun core => ?_))
    exact (queues.resets core streamId errorCode).mono fun _ _ _ plain frame among =>
      admits frame (plain frame among).1
  acknowledges := by
    intro length streamId
    refine covers_alike.mpr (gated_outbound lasting (outbound_callH2 _) (adds_callH2 fun core => ?_))
    exact (queues.acknowledges core length streamId).mono fun _ _ _ plain frame among =>
      admits frame (plain frame among).1
  counts := covers_alike.mpr
    (gated_outbound lasting (outbound_onConnection _) fun _ => Adds.of_eq rfl rfl)
  fails _ message errorCode _ := covers_alike.mpr
    (gated_outbound lasting (outbound_fail message errorCode) (adds_fail queues admits _ _))

/-- Whatever becomes of a chunk, the frames it leads to are of the kind if requests are. -/
theorem within_receive_gated
    (requests : ∀ streamId headers streamEnded,
      Within (Gated gate quality) (processRequest packages streamId headers streamEnded))
    (data : Bytes) : Within (Gated gate quality) (receive packages data) := by
  have tending := tending_gated queues lasting admits
  have delivering : Delivering packages (alike (Gated gate quality)) := by
    refine ⟨tending, ?_, ?_, ?_, ?_, ?_⟩
    · exact fun wire => covers_alike.mpr
        (gated_outbound lasting (outbound_onConnection _) (adds_received queues admits wire))
    · exact covers_alike.mpr (gated_outbound lasting (outbound_onConnection _) adds_drain)
    · exact fun changes => covers_alike.mpr
        (gated_outbound lasting (outbound_onConnection _) fun _ => Adds.of_eq rfl rfl)
    · exact covers_alike.mpr (gated_outbound lasting outbound_pause adds_pause)
    · intro message
      refine covers_alike.mpr (gated_outbound lasting ?_ ?_)
      · exact outbound.within_bind (outbound_callH2 _) fun _ =>
          outbound.within_bind talking_outbound.errs fun _ => outbound.within_throw _
      · exact adds.within_bind (adds_goaway queues admits _ none) fun _ =>
          adds.within_bind adds_recordError fun _ => adds.within_throw _
  have attending : Attending packages (alike (Gated gate quality)) := by
    refine ⟨tending, ?_, ?_, ?_⟩
    · intro frame wire _
      have wires := delivering.covers_receiveWire fun streamId headers streamEnded =>
        covers_alike.mpr (requests streamId headers streamEnded)
      have delivers := delivering.covers_deliver tending.toChained.leads frame (wires wire)
      refine covers_alike.mpr (gated.within_bind (gated.within_tryCatch
        (covers_alike.mp delivers) fun raised => ?_) fun _ => ?_)
      · exact gated_outbound lasting (outbound_handleProtocolError raised)
          (adds_handleProtocolError raised)
      · exact gated_outbound lasting outbound_flush adds_flush
    · exact covers_alike.mpr (gated_outbound lasting outbound_flush adds_flush)
    · exact covers_alike.mpr (gated_outbound lasting outbound_pause adds_pause)
  exact covers_alike.mp (attending.covers_receive data)

end Gated

/-! ### Once a request is captured -/

/-- A request has been captured. -/
def Capturing (session : HTTP2Session κ δ) : Prop := session.capture.streamId.isSome = true

/-- The frame is no part of a response. -/
def Silent (frame : WireFrame) : Prop := H2.isResponse frame = false

/-- After the first request, no chunk leads to a part of a response. -/
theorem within_receive_silent (queues : packages.h2.Queues) (data : Bytes) :
    Within (Gated Capturing Silent) (receive packages data) := by
  have lasting : Lasting (Capturing (κ := κ) (δ := δ)) := fun _ _ kept => kept
  have admits : ∀ frame, H2.isResponse frame = false → Silent frame := fun _ => id
  refine within_receive_gated queues lasting admits (fun streamId headers streamEnded => ?_) data
  intro state captured
  -- A further request is refused, so it is not told to continue.
  have tending : Tending packages _ := tending_gated queues lasting admits
  have refused := tending.at_processRequest captured streamId headers streamEnded
  rcases ran : processRequest packages streamId headers streamEnded state with
    ⟨raised | value, after⟩
  · exact refused.raised ran captured
  · exact refused.returned ran captured

/-! ### What may be left in the queue -/

/-- The frame carries no content and ends no stream. -/
def Interim (frame : WireFrame) : Prop :=
  frame.type ≠ FrameType.data.code ∧ H2.endsStream frame = false

/-- What is no part of a response is interim. -/
theorem interim_of_silent {frame : WireFrame} (silent : H2.isResponse frame = false) :
    Interim frame := by
  simp only [H2.isResponse, Bool.or_eq_false_iff, decide_eq_false_iff_not] at silent
  obtain ⟨⟨headers, -⟩, data⟩ := silent
  refine ⟨data, ?_⟩
  simp [H2.endsStream, headers, data]

/-- The frames of a block that does not end its stream are interim. -/
theorem interim_of_block {streamId : Nat} (block : H2.IsBlock streamId false frames) :
    ∀ frame ∈ frames, Interim frame := by
  obtain ⟨first, rest, rfl, headers, -, unended, continued⟩ := block
  intro frame among
  rcases mem_cons.mp among with rfl | among
  · refine ⟨?_, unended⟩
    rw [headers]
    decide
  · -- A CONTINUATION frame has no flag for the end of a stream.
    have kind := continued frame among
    have other : frame.type ≠ FrameType.headers.code ∧ frame.type ≠ FrameType.data.code := by
      rw [kind]
      decide
    exact ⟨other.2, by simp [H2.endsStream, other.1, other.2]⟩

/-- Whatever becomes of a chunk, it leads to no content and to no end of a stream. -/
theorem within_receive_interim (queues : packages.h2.Queues) (data : Bytes) :
    Within (Gated (fun _ : HTTP2Session κ δ => True) Interim) (receive packages data) := by
  have lasting : Lasting (fun _ : HTTP2Session κ δ => True) := fun _ _ _ => id
  have admits : ∀ frame, H2.isResponse frame = false → Interim frame :=
    fun _ => interim_of_silent
  have tending : Tending packages _ := tending_gated queues lasting admits
  refine within_receive_gated queues lasting admits (fun streamId headers streamEnded => ?_) data
  refine covers_alike.mp
    (tending.covers_processRequest tending.toChained.leads _ _ _ fun _ fields => ?_)
  -- A first request may be told to continue, which does not end its stream.
  refine covers_alike.mpr (gated_outbound lasting (outbound_callH2 _) (adds_callH2 fun core => ?_))
  refine (queues.headers core streamId fields false).mono ?_
  rintro result core' queued (⟨-, block⟩ | ⟨-, rfl⟩)
  · exact interim_of_block block
  · simp

/-- Nothing in the queue carries content or ends a stream. -/
def Unanswered (session : HTTP2Session κ δ) : Prop :=
  ∀ frame ∈ session.connection.outgoing, Interim frame

/-- Between calls, however they ended, no content is left in the queue. -/
theorem Run.unanswered (queues : packages.h2.Queues) {raised : Bool} {state : HTTP2Session κ δ}
    (run : Run packages raised state) : Unanswered state := by
  have progress := keeps (Unanswered (κ := κ) (δ := δ))
  have admits : ∀ frame, H2.isResponse frame = false → Interim frame :=
    fun _ => interim_of_silent
  have kept : ∀ {α : Type} {action : SessionM κ δ α}, Within (Adds Interim) action →
      Within (Keeps Unanswered) action := fun added state queued => (added state queued).1
  have serving : Serving packages (alike (Keeps (Unanswered (κ := κ) (δ := δ)))) := by
    refine ⟨chained_alike progress, ?_, ?_, ?_, ?_, ?_, ?_, ?_⟩
    · exact fun state _ _ => progress.refl state
    · exact fun _ => id
    · refine covers_alike.mpr fun state => ?_
      unfold transportRead
      split
      · exact id
      · exact id
    · -- Everything queued for a response is taken off the queue at once.
      intro outcall _
      refine covers_alike.mpr fun state queued => ?_
      refine bind_ends (fun error reached ran => ?_) fun _ reached ran => ?_
      · obtain ⟨core, frames, decoder, encoder, calls, law, shape⟩ := callH2_ends outcall.method state
          (queues.raising outcall state.connection.core)
        rw [ran] at law shape
        dsimp only at shape
        subst shape
        intro frame among
        rcases mem_append.mp among with among | among
        · exact queued frame among
        · exact interim_of_silent (law ⟨error, rfl⟩ frame among).1
      · intro frame among
        rw [flush_connection] at among
        cases among
    · exact fun streamId => covers_alike.mpr fun _ => id
    · exact fun message errorCode _ => covers_alike.mpr (kept (adds_fail queues admits message errorCode))
    · exact fun data => covers_alike.mpr fun state queued =>
        (within_receive_interim queues data state trivial).2 queued |>.1
  refine run.always (fun transport frame among => by cases among) fun call => ?_
  refine covers_alike.mp (serving.covers_perform ?_ (fun errorCode => ?_) call)
  · exact covers_alike.mpr (kept (adds_received queues admits _))
  · exact covers_alike.mpr (kept (adds_close queues admits errorCode))

end SolveTls.HTTP2Session
