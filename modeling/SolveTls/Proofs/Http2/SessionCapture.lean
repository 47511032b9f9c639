import SolveTls.Proofs.Http2.SessionFrames
import SolveTls.Proofs.Http2.SessionRuns
import SolveTls.Proofs.Report

/-! The capture is lossless and bounded, whatever the peer sends and the library does. -/

namespace SolveTls.HTTP2Session

open Fallible Octets List Exits

variable {κ δ : Type} {packages : Packages κ δ}
variable {wire rest : Bytes} {state before after : HTTP2Session κ δ} {turns : Nat}
  {outcome : Except Exn Unit}

/-! ### One turn of the receive loop -/

/-- The inbound frame limit in a state. -/
def inboundLimit (packages : Packages κ δ) (session : HTTP2Session κ δ) : Nat :=
  packages.h2.maxInboundFrameSize session.connection.core

/-- The buffer does not hold a whole frame, and what it holds of one is within the limit. -/
def Incomplete (limit : Nat) (buffer : Bytes) : Prop :=
  buffer.length < frameHeaderSize ∨ bigEndian (buffer.take 3) ≤ limit ∧
    buffer.length < frameHeaderSize + bigEndian (buffer.take 3)

/-- The buffer starts with the header of a frame over the limit. -/
def Oversized (limit : Nat) (buffer : Bytes) : Prop :=
  frameHeaderSize ≤ buffer.length ∧ limit < bigEndian (buffer.take 3)

/-- A buffer is incomplete, starts with a frame over the limit, or starts with a whole frame. -/
theorem buffer_cases (limit : Nat) (buffer : Bytes) :
    Incomplete limit buffer ∨ Oversized limit buffer ∨
      ∃ wire rest, buffer = wire ++ rest ∧ IsWireFrame wire ∧ (headerOf wire).length ≤ limit := by
  by_cases short : buffer.length < frameHeaderSize
  · exact .inl (.inl short)
  by_cases large : limit < bigEndian (buffer.take 3)
  · exact .inr (.inl ⟨not_lt.mp short, large⟩)
  by_cases unfinished : buffer.length < frameHeaderSize + bigEndian (buffer.take 3)
  · exact .inl (.inr ⟨not_lt.mp large, unfinished⟩)
  · -- The whole frame is cut off; its length field is that of the buffer.
    have first : (buffer.take (frameHeaderSize + bigEndian (buffer.take 3))).take 3 =
        buffer.take 3 := by
      rw [take_take]
      congr 1
      simp only [frameHeaderSize]
      omega
    refine .inr (.inr ⟨buffer.take (frameHeaderSize + bigEndian (buffer.take 3)),
      buffer.drop (frameHeaderSize + bigEndian (buffer.take 3)), (take_append_drop _ _).symm,
      ?_, ?_⟩)
    · simp only [IsWireFrame, headerOf, first, length_take]
      simp only [frameHeaderSize] at *
      omega
    · simp only [headerOf, first]
      exact not_lt.mp large

/-- The length field of a frame at the front of a buffer. -/
theorem length_field (framed : IsWireFrame wire) (rest : Bytes) :
    bigEndian ((wire ++ rest).take 3) = (headerOf wire).length := by
  have header := framed.1
  simp only [frameHeaderSize] at header
  rw [take_append_of_le_length (by omega), headerOf]

theorem receiveLoop_incomplete (incomplete : Incomplete (inboundLimit packages state) state.buffer)
    (turns : Nat) :
    receiveLoop packages turns state = (.ok (), state) := by
  cases turns with
  | zero => rfl
  | succ turns =>
    simp only [receiveLoop, bind_apply, get_apply]
    by_cases short : state.buffer.length < frameHeaderSize
    · rw [if_pos short, pure_apply]
    · obtain ⟨fits, unfinished⟩ := incomplete.resolve_left short
      have small : ¬ bigEndian (state.buffer.take 3) >
          packages.h2.maxInboundFrameSize state.connection.core := not_lt.mpr fits
      rw [if_neg short]
      simp only [bind_apply, failIf_neg small, pure_apply]
      rw [if_pos unfinished, pure_apply]

theorem receiveLoop_oversized (oversized : Oversized (inboundLimit packages state) state.buffer)
    (turns : Nat) :
    receiveLoop packages (turns + 1) state =
      fail packages "HTTP/2 frame size limit exceeded" ErrorCode.frameSizeError.code state := by
  have large : bigEndian (state.buffer.take 3) >
      packages.h2.maxInboundFrameSize state.connection.core := oversized.2
  simp only [receiveLoop, bind_apply, get_apply]
  rw [if_neg (not_lt.mpr oversized.1)]
  obtain ⟨raised, after, failed, -⟩ := fail_raises (α := Unit) packages
    "HTTP/2 frame size limit exceeded" ErrorCode.frameSizeError.code state
  simp only [bind_apply, failIf_pos large, failed]

/-- A whole frame at the front of the buffer is taken off and received. -/
theorem receiveLoop_frame (cut : state.buffer = wire ++ rest) (framed : IsWireFrame wire)
    (fits : (headerOf wire).length ≤ inboundLimit packages state) (turns : Nat) :
    receiveLoop packages (turns + 1) state =
      (do receiveFrame packages wire (inboundLimit packages state); receiveLoop packages turns)
        { state with buffer := rest } := by
  have length : bigEndian (state.buffer.take 3) = (headerOf wire).length :=
    cut ▸ length_field framed rest
  have width : wire.length = frameHeaderSize + bigEndian (state.buffer.take 3) :=
    framed.2.trans (by rw [length])
  have small : ¬ bigEndian (state.buffer.take 3) >
      packages.h2.maxInboundFrameSize state.connection.core := not_lt.mpr (length ▸ fits)
  have whole : ¬ state.buffer.length < frameHeaderSize + bigEndian (state.buffer.take 3) := by
    rw [← width, cut, length_append]
    omega
  have taken : state.buffer.take (frameHeaderSize + bigEndian (state.buffer.take 3)) = wire := by
    rw [← width, cut, take_left]
  have left : state.buffer.drop (frameHeaderSize + bigEndian (state.buffer.take 3)) = rest := by
    rw [← width, cut, drop_left]
  simp only [receiveLoop, bind_apply, get_apply]
  rw [if_neg fun short => whole (Nat.lt_add_right _ short)]
  simp only [bind_apply, failIf_neg small, pure_apply]
  rw [if_neg whole]
  simp only [bind_apply, modify_apply, taken, left]
  rfl

/-- A frame is never empty, so what is left of the buffer is shorter. -/
theorem rest_shorter {buffer : Bytes} (cut : buffer = wire ++ rest) (framed : IsWireFrame wire)
    (enough : buffer.length ≤ turns + 1) : rest.length ≤ turns := by
  have header := framed.1
  rw [cut, length_append] at enough
  simp only [frameHeaderSize] at header
  omega

/-- Receiving a frame leaves the octets behind it in the buffer. -/
theorem receiveFrame_buffer (framed : IsWireFrame wire)
    (fits : (headerOf wire).length ≤ inboundLimit packages state)
    (ran : receiveFrame packages wire (inboundLimit packages state) { state with buffer := rest } =
      (outcome, after)) : after.buffer = rest :=
  ((receiveFrame_received framed fits).reached ran).buffer

/-- A turn stops at an incomplete frame, fails over its size, or takes one frame off the buffer. -/
theorem receiveLoop_turn (packages : Packages κ δ) (turns : Nat) (state : HTTP2Session κ δ) :
    receiveLoop packages (turns + 1) state = (.ok (), state) ∧
      state.buffer.length < frameHeaderSize + inboundLimit packages state ∨
    (∃ raised after, receiveLoop packages (turns + 1) state = (.error raised, after) ∧
      Outbound state after) ∨
    ∃ wire rest, state.buffer = wire ++ rest ∧ IsWireFrame wire ∧
      (headerOf wire).length ≤ inboundLimit packages state ∧
      receiveLoop packages (turns + 1) state =
        (do receiveFrame packages wire (inboundLimit packages state); receiveLoop packages turns)
          { state with buffer := rest } := by
  rcases buffer_cases (inboundLimit packages state) state.buffer with
    incomplete | oversized | ⟨wire, rest, cut, framed, fits⟩
  · refine .inl ⟨receiveLoop_incomplete incomplete _, ?_⟩
    rcases incomplete with short | ⟨fits, unfinished⟩ <;> omega
  · rw [receiveLoop_oversized oversized]
    exact .inr (.inl (fail_raises _ _ _ _))
  · exact .inr (.inr ⟨wire, rest, cut, framed, fits, receiveLoop_frame cut framed fits turns⟩)

/-! ### The capture along a run -/

/-- What holds of the capture in every state, also in the one an error left behind. -/
structure Sound (session : HTTP2Session κ δ) : Prop where
  genuine : ∀ frame ∈ session.capture.frames,
    IsWireFrame frame.raw ∧ HTTP2FrameReader.Captured frame.raw frame
  frames : session.capture.frames.length ≤ maxCaptureFrames
  kept : session.entriesKept ≤ session.entriesCharged
  charged : session.entriesCharged ≤ session.captureEntries
  budget : session.captureEntries ≤ maxCaptureEntries

/-- A later state with the same frames, and entries charged within the budget, is sound too. -/
theorem Sound.sameFrames (sound : Sound before)
    (frames : after.capture.frames = before.capture.frames)
    (grows : before.captureEntries ≤ after.captureEntries)
    (budget : before.captureEntries ≤ maxCaptureEntries → after.captureEntries ≤ maxCaptureEntries) :
    Sound after := by
  have kept := sound.kept
  have charged := sound.charged
  simp only [entriesKept, entriesCharged] at kept charged
  exact ⟨by rw [frames]; exact sound.genuine, by rw [frames]; exact sound.frames,
    by simp only [entriesKept, entriesCharged, frames]; exact kept,
    by simp only [entriesCharged, frames]; exact charged.trans grows, budget sound.budget⟩

/-- Receiving a frame keeps the capture sound. -/
theorem Received.sound (received : Received wire before after) (framed : IsWireFrame wire)
    (sound : Sound before) : Sound after := by
  rcases received.kept with same | ⟨frame, captured, appended, below, counted, spent⟩
  · exact sound.sameFrames same received.grows received.budget
  · have kept := sound.kept
    have charged := sound.charged
    simp only [entriesKept, entriesCharged] at kept charged
    -- The new frame adds its own entries to each of the three sums.
    refine ⟨?_, ?_, ?_, ?_, received.budget sound.budget⟩
    · rw [appended]
      intro member among
      rcases mem_append.mp among with older | newest
      · exact sound.genuine member older
      · obtain rfl := mem_singleton.mp newest
        rw [captured.raw]
        exact ⟨framed, captured⟩
    · rw [appended, length_append, length_singleton]
      exact below
    · simp only [entriesKept, entriesCharged, appended, map_append, sum_append,
        map_cons, map_nil, sum_singleton, captured.raw, captured.header]
      omega
    · simp only [entriesCharged, appended, map_append, sum_append, map_cons,
        map_nil, sum_singleton, captured.raw, captured.header, spent]
      omega

/-- How far the receive loop may have got when it ends, in any way. -/
structure Advance (before after : HTTP2Session κ δ) : Prop where
  captureBytes : after.captureBytes = before.captureBytes
  initialized : after.initialized = before.initialized
  reads : after.transport.reads = before.transport.reads
  closed : before.closed = true → after.closed = true
  cancelled : before.cancelled = true → after.cancelled = true
  shrinks : after.content.length ≤ before.content.length
  raws : after.rawOctets <+: before.content
  sound : Sound before → Sound after

theorem Outbound.advance (same : Outbound before after) : Advance before after := by
  obtain ⟨⟨connection, transport, closed, applied, errors, rfl⟩, reads, kept⟩ := same
  exact ⟨rfl, rfl, reads, kept, id, le_refl _, prefix_append _ _,
    fun sound => sound.sameFrames rfl (le_refl _) id⟩

/-- After a state with the same content, a further advance is one from the start. -/
theorem Advance.further {middle last : HTTP2Session κ δ} (first : Advance before middle)
    (same : middle.content = before.content) (second : Advance middle last) :
    Advance before last :=
  ⟨second.captureBytes.trans first.captureBytes, second.initialized.trans first.initialized,
    second.reads.trans first.reads, second.closed ∘ first.closed,
    second.cancelled ∘ first.cancelled, second.shrinks.trans first.shrinks,
    same ▸ second.raws, second.sound ∘ first.sound⟩

/-- Taking one frame off the buffer and receiving it. -/
theorem receiveFrame_advance (cut : state.buffer = wire ++ rest) (framed : IsWireFrame wire)
    (fits : (headerOf wire).length ≤ inboundLimit packages state)
    (ran : receiveFrame packages wire (inboundLimit packages state) { state with buffer := rest } =
      (outcome, after)) :
    Advance state after ∧ (outcome = .ok () → after.content = state.content) := by
  have received := (receiveFrame_received framed fits).reached ran
  have buffer : after.buffer = rest := received.buffer
  have sound : Sound state → Sound after := fun sound =>
    received.sound framed (sound.sameFrames rfl (le_refl _) id)
  rcases received.kept with same | ⟨frame, captured, appended, -⟩
  · -- The frame was not kept, so its octets are gone from the capture.
    have raws : after.rawOctets = state.rawOctets := by simp only [rawOctets, same]
    refine ⟨⟨received.captureBytes, received.initialized, received.reads, received.closed,
      received.cancelled, ?_, ?_, sound⟩, ?_⟩
    · simp only [content, raws, buffer, cut, length_append]
      omega
    · rw [raws]
      exact prefix_append _ _
    · -- But then the call raised: a returned call has appended its frame.
      intro returned
      subst returned
      obtain ⟨frame, -, processed⟩ := receiveFrame_ok framed fits ran
      have appended := (processing_processFrame packages frame wire (capturing
        { state with buffer := rest } frame
        (reservedEntries (headerOf wire) (wire.drop frameHeaderSize)))).frames
      rw [processed, same] at appended
      have lengths := congrArg List.length appended
      simp [capturing, noting] at lengths
  · have raws : after.rawOctets = state.rawOctets ++ wire := by
      simp only [rawOctets, appended, flatMap_append, flatMap_cons, flatMap_nil,
        captured.raw, append_nil]
    have same : after.content = state.content := by
      simp only [content, raws, buffer, cut, append_assoc]
    exact ⟨⟨received.captureBytes, received.initialized, received.reads, received.closed,
      received.cancelled, by rw [same], by rw [← same]; exact prefix_append _ _, sound⟩,
      fun _ => same⟩

/-- The receive loop keeps everything it was given, up to the frame it fails on. -/
theorem receiveLoop_advance (packages : Packages κ δ) (turns : Nat) (state : HTTP2Session κ δ) :
    Advance state (receiveLoop packages turns state).2 ∧
      ((receiveLoop packages turns state).1 = .ok () →
        (receiveLoop packages turns state).2.content = state.content) := by
  -- The induction is on the turns; every frame continues from where the last one returned.
  induction turns generalizing state with
  | zero => exact ⟨(outbound.refl state).advance, fun _ => rfl⟩
  | succ turns ih =>
    rcases receiveLoop_turn packages turns state with
      ⟨stopped, -⟩ | ⟨raised, after, failed, same⟩ | ⟨wire, rest, cut, framed, fits, taken⟩
    · rw [stopped]
      exact ⟨(outbound.refl state).advance, fun _ => rfl⟩
    · rw [failed]
      exact ⟨same.advance, fun returned => by cases returned⟩
    · rw [taken, bind_apply]
      rcases ran : receiveFrame packages wire (inboundLimit packages state)
          { state with buffer := rest } with ⟨raised | _, after⟩
      · exact ⟨(receiveFrame_advance cut framed fits ran).1, fun returned => by cases returned⟩
      · obtain ⟨first, same⟩ := receiveFrame_advance cut framed fits ran
        obtain ⟨second, same'⟩ := ih after
        exact ⟨first.further (same rfl) second, fun returned => (same' returned).trans (same rfl)⟩

/-- The loop advances, however it ends. -/
theorem advance_receiveLoop : Within Advance (receiveLoop packages turns) :=
  fun state => (receiveLoop_advance packages turns state).1

/-- The state with a chunk charged to the byte budget. -/
def charge (state : HTTP2Session κ δ) (data : Bytes) : HTTP2Session κ δ :=
  { state with captureBytes := state.captureBytes + data.length }

/-- The state with a chunk behind the buffer. -/
def extend (state : HTTP2Session κ δ) (data : Bytes) : HTTP2Session κ δ :=
  { state.charge data with buffer := state.buffer ++ data }

/-- A chunk is refused because the peer is gone or over budget, or goes through the loop. -/
theorem receive_cases (packages : Packages κ δ) (data : Bytes) (state : HTTP2Session κ δ) :
    data = [] ∧ (∃ raised, receive packages data state = (.error raised, state)) ∨
    data ≠ [] ∧ state.captureBytes + data.length > maxCaptureBytes ∧
      (∃ raised after, receive packages data state = (.error raised, after) ∧
        Outbound (state.charge data) after) ∨
    data ≠ [] ∧ state.captureBytes + data.length ≤ maxCaptureBytes ∧
      receive packages data state =
        (do receiveLoop packages (state.buffer ++ data).length; flush; checkCancelled)
          (state.extend data) := by
  unfold receive
  by_cases empty : data = []
  · refine .inl ⟨empty, .connection "HTTP/2 connection closed before completion", ?_⟩
    simp only [raiseIf_pos empty, throw_bind_eq]
    rfl
  · simp only [raiseIf_neg empty, pure_bind_eq]
    refine .inr ?_
    -- The byte budget is charged before it is compared with the limit.
    by_cases excess : state.captureBytes + data.length > maxCaptureBytes
    · refine .inl ⟨empty, excess, ?_⟩
      simp only [bind_apply, modify_apply, get_apply, failIf_pos excess]
      obtain ⟨raised, after, ran, same⟩ := fail_raises (α := Unit) packages
        "HTTP/2 capture limit exceeded" ErrorCode.enhanceYourCalm.code (state.charge data)
      refine ⟨raised, after, ?_, same⟩
      simp only [charge] at ran
      rw [ran]
    · refine .inr ⟨empty, not_lt.mp excess, ?_⟩
      simp only [bind_apply, modify_apply, get_apply, failIf_neg excess, pure_apply, extend, charge]

/-- Once the loop is through, only output is left to send. -/
theorem outbound_afterLoop :
    Within Outbound (do flush; checkCancelled : SessionM κ δ Unit) :=
  outbound.within_bind outbound_flush fun _ =>
    talking_outbound.on_checkCancelled fun _ => outbound.within_throw _

/-- Output is no part of what was received. -/
theorem Outbound.content (same : Outbound before after) : after.content = before.content := by
  obtain ⟨⟨connection, transport, closed, applied, errors, rfl⟩, -, -⟩ := same
  rfl

/-- How octets were taken: captured in order, and all of them kept where the call returned. -/
structure Took (data : Bytes) (state : HTTP2Session κ δ)
    (result : Except Exn Unit × HTTP2Session κ δ) : Prop where
  whole : result.1 = .ok () → result.2.content = state.content ++ data
  raws : result.2.rawOctets <+: state.content ++ data
  sound : Sound state → Sound result.2

section Taking

variable {data more : Bytes} {raised : Exn} {result : Except Exn Unit × HTTP2Session κ δ}

/-- A call that raises may leave a part of what was there before. -/
theorem Took.of_raised (raws : after.rawOctets <+: state.content) (sound : Sound state → Sound after) :
    Took data state (.error raised, after) :=
  ⟨fun returned => (by cases returned), raws.trans (prefix_append _ _), sound⟩

/-- What only sends takes nothing. -/
theorem Outbound.took (same : Outbound state result.2) : Took [] state result := by
  refine ⟨fun _ => ?_, ?_, same.advance.sound⟩
  · rw [append_nil, same.content]
  · rw [append_nil]
    exact same.advance.raws

/-- Octets that are already there count as taken. -/
theorem Took.start (took : Took more before result) (content : before.content = state.content ++ data)
    (sound : Sound state → Sound before) : Took (data ++ more) state result := by
  obtain ⟨whole, raws, later⟩ := took
  rw [content, append_assoc] at whole raws
  exact ⟨whole, raws, later ∘ sound⟩

/-- Octets are taken by one call after another. -/
theorem Took.bind {action next : SessionM κ δ Unit} (took : Took data state (action state))
    (takes : ∀ middle, Took more middle (next middle)) :
    Took (data ++ more) state ((do action; next) state) := by
  rw [bind_apply]
  rcases ran : action state with ⟨raised | _, after⟩ <;> rw [ran] at took
  · refine ⟨fun returned => (by cases returned), ?_, took.sound⟩
    rw [← append_assoc]
    exact took.raws.trans (prefix_append _ _)
  · exact (takes after).start (took.whole rfl) took.sound

end Taking

/-- The loop takes nothing but what is in the buffer. -/
theorem receiveLoop_took (turns : Nat) (state : HTTP2Session κ δ) :
    Took [] state (receiveLoop packages turns state) := by
  obtain ⟨looped, same⟩ := receiveLoop_advance packages turns state
  refine ⟨fun returned => ?_, ?_, looped.sound⟩
  · rw [append_nil, same returned]
  · rw [append_nil]
    exact looped.raws

/-- What one call of `receive` makes of a chunk. -/
theorem receive_took (data : Bytes) (state : HTTP2Session κ δ) :
    Took data state (receive packages data state) := by
  have charged : Sound state → Sound (state.charge data) := fun sound =>
    sound.sameFrames rfl (le_refl _) id
  rcases receive_cases packages data state with
    ⟨-, raised, ran⟩ | ⟨-, -, raised, after, ran, same⟩ | ⟨-, -, ran⟩
  · rw [ran]
    exact .of_raised (prefix_append _ _) id
  · rw [ran]
    exact .of_raised same.advance.raws (same.advance.sound ∘ charged)
  · have extended : (state.extend data).content = state.content ++ data := by
      simp only [content, rawOctets, extend, charge, append_assoc]
    have looped : Took [] (state.extend data) (receive packages data state) := by
      rw [ran]
      exact (receiveLoop_took _ _).bind fun after => (outbound_afterLoop after).took
    have whole := looped.start extended fun sound => sound.sameFrames rfl (le_refl _) id
    rwa [append_nil] at whole

/-! ### Chunks that were received -/

/-- A chunk that was received has gone through the loop, and everything queued was sent. -/
theorem receive_returned {data : Bytes} (ran : receive packages data before = (.ok (), after)) :
    data ≠ [] ∧ before.captureBytes + data.length ≤ maxCaptureBytes ∧ ∃ reached,
      receiveLoop packages (before.buffer ++ data).length (before.extend data) = (.ok (), reached) ∧
      flush reached = (.ok (), after) ∧ after.cancelled = false ∧ after.closed = false := by
  rcases receive_cases packages data before with
    ⟨-, raised, failed⟩ | ⟨-, -, raised, reached, failed, -⟩ | ⟨nonempty, fits, looped⟩
  · rw [failed] at ran
    cases ran
  · rw [failed] at ran
    cases ran
  · simp only [looped, bind_eq_ok] at ran
    obtain ⟨_, reached, ran₁, _, flushed, ran₂, ran₃⟩ := ran
    obtain ⟨running, opened, rfl⟩ := checkCancelled_ok ran₃
    exact ⟨nonempty, fits, reached, ran₁, ran₂, running, opened⟩

section Chunks

variable {exits : Exits (HTTP2Session κ δ) Exn} (chained : exits.Chained)
  (buffers : ∀ state buffer captureBytes, exits.returns state { state with buffer, captureBytes })
  (fails : ∀ (message : String) {errorCode : Nat}, IsFault errorCode →
    exits.Covers (fail packages message errorCode : SessionM κ δ Unit))
  (frames : ∀ {wire maximum}, IsWireFrame wire → (headerOf wire).length ≤ maximum →
    exits.Covers (receiveFrame packages wire maximum))

include chained buffers fails frames

/-- Exits that cover the reception of every frame cover the loop. -/
theorem covers_receiveLoop (turns : Nat) : exits.Covers (receiveLoop packages turns) := by
  -- The induction is on the turns; each of them takes one frame off the buffer.
  induction turns with
  | zero => exact chained.covers_pure ()
  | succ turns ih =>
    intro state
    rcases buffer_cases (inboundLimit packages state) state.buffer with
      incomplete | oversized | ⟨wire, rest, cut, framed, fits⟩
    · exact .of_ok (receiveLoop_incomplete incomplete (turns + 1)) (chained.refl state)
    · have failed := receiveLoop_oversized oversized turns
      have covered := fails "HTTP/2 frame size limit exceeded"
        (show IsFault ErrorCode.frameSizeError.code by decide) state
      exact ⟨fun ran => covered.returned (failed.symm.trans ran),
        fun ran => covered.raised (failed.symm.trans ran)⟩
    · -- The frame leaves the buffer, is received, and the loop goes on.
      have taken := receiveLoop_frame cut framed fits turns
      have shorter := buffers state rest state.captureBytes
      have later := chained.covers_bind (frames framed fits) (fun _ => ih)
        { state with buffer := rest }
      exact ⟨fun ran => chained.trans shorter (later.returned (taken.symm.trans ran)),
        fun ran => chained.onward shorter (later.raised (taken.symm.trans ran))⟩

/-- If they cover sending as well, they cover a whole chunk. -/
theorem covers_receive (throws : ∀ state message, exits.raises state (.connection message) state)
    (flushes : exits.Covers (flush : SessionM κ δ Unit)) (data : Bytes) :
    exits.Covers (receive packages data) := by
  refine chained.covers_bind (chained.covers_raiseIf fun state => throws state _) fun _ =>
    chained.covers_bind (covers_modify fun state => buffers state state.buffer _) fun _ =>
      chained.covers_bind chained.covers_get fun _ =>
        chained.covers_bind (chained.covers_runWhen fun _ => fails _ (by decide)) fun _ => ?_
  refine chained.covers_bind (covers_modify fun state => buffers state _ _) fun _ =>
    chained.covers_bind chained.covers_get fun _ =>
      chained.covers_bind (covers_receiveLoop chained buffers fails frames _) fun _ =>
        chained.covers_bind flushes fun _ => ?_
  exact (looking_covers chained).on_checkCancelled fun _ =>
    covers_throw fun state => throws state _

end Chunks

/-- A property that frames keep or give up is kept or given up by a whole chunk. -/
theorem receive_keeping {held final : HTTP2Session κ δ → Prop}
    (buffers : ∀ state buffer captureBytes, held state → held { state with buffer, captureBytes })
    (implies : ∀ {state}, held state → final state)
    (sends : ∀ {before after}, Outbound before after → final before → final after)
    (flushes : ∀ {before after}, flush before = (.ok (), after) → held before → held after)
    (frames : ∀ {wire maximum}, IsWireFrame wire → (headerOf wire).length ≤ maximum →
      (keeping held fun _ => final).Covers (receiveFrame packages wire maximum))
    (data : Bytes) : (keeping held fun _ => final).Covers (receive packages data) := by
  refine covers_receive chained_keeping buffers (fun message errorCode _ => ?_) frames
    (fun _ _ => implies) (covers_sending implies sends outbound_flush flushes) data
  exact covers_sending implies sends (outbound_fail message errorCode) fun ran =>
    (fail_eq_ok.mp ran).elim

/-- A property that holds again after every frame, and does not go by what is still buffered. -/
structure Framewise (packages : Packages κ δ) (property : HTTP2Session κ δ → Prop) : Prop extends
    Enduring packages property where
  buffers : ∀ (state : HTTP2Session κ δ) (buffer : Bytes) (captureBytes : Nat), property state →
    property { state with buffer, captureBytes }
  processes : ∀ {wire frame entries state after}, HTTP2FrameReader.Captured wire frame →
    processFrame packages frame wire (capturing state frame entries) = (.ok (), after) →
      property state → property after

theorem Framewise.stable {property : HTTP2Session κ δ → Prop}
    (framewise : Framewise packages property) : Stable packages property where
  toEnduring := framewise.toEnduring
  receives {data _ _} := by
    have covers : (keeping property fun _ _ => True).Covers (receive packages data) := by
      refine receive_keeping framewise.buffers (fun _ => trivial) (fun _ _ => trivial)
        framewise.flushes (fun framed fits => covers_kept fun ran held => ?_) data
      obtain ⟨frame, captured, processed⟩ := receiveFrame_ok framed fits ran
      exact framewise.processes captured processed held
    exact (covers _).returned

/-- A framewise property of new sessions holds between any two frames. -/
theorem Between.holds {property : HTTP2Session κ δ → Prop}
    (created : ∀ transport, property (create packages transport))
    (framewise : Framewise packages property) (between : Between packages state) :
    property state := by
  induction between with
  | waits waiting => exact framewise.buffers _ _ _ (waiting.holds created framewise.stable)
  | @takes wire buffer maximum before after _ framed fits ran held =>
    obtain ⟨frame, captured, processed⟩ := receiveFrame_ok framed fits ran
    -- The buffer is cut before the frame is taken.
    exact framewise.processes captured processed
      (framewise.buffers before buffer before.captureBytes held)

/-! ### Whole runs -/

theorem sound_create (packages : Packages κ δ) (transport : Transport) :
    Sound (create packages transport) :=
  ⟨fun _ among => (by cases among), Nat.zero_le _, le_refl _, Nat.zero_le _, Nat.zero_le _⟩

/-- Before the first chunk is received, a session only announces itself. -/
theorem initializeSession_cases (packages : Packages κ δ) (incomingData : Bytes)
    (state : HTTP2Session κ δ) :
    (∃ raised after, initializeSession packages incomingData state = (.error raised, after) ∧
      (after = state ∨ Outbound { state with initialized := true } after)) ∨
    ∃ after, Outbound { state with initialized := true } after ∧ http2Preface <+: incomingData ∧
      initializeSession packages incomingData state =
        runWhen (incomingData.drop http2Preface.length ≠ [])
          (receive packages (incomingData.drop http2Preface.length)) after := by
  simp only [initializeSession, bind_apply, get_apply]
  by_cases again : state.initialized = true
  · simp only [raiseIf_pos again, throw_apply]
    exact .inl ⟨_, state, rfl, .inl rfl⟩
  · simp only [raiseIf_neg again, pure_apply, modify_apply]
    -- Each step that raises leaves a state that differs in the connection and the output only.
    rcases called : callH2 packages (fun h2 core => h2.initiateConnection core)
        { state with initialized := true } with ⟨raised | _, afterCall⟩
    · exact .inl ⟨raised, afterCall, rfl, .inr ((outbound_callH2 _).reached called)⟩
    · have first := (outbound_callH2 _).reached called
      dsimp only
      rcases flushed : flush afterCall with ⟨raised | _, afterFlush⟩
      · exact .inl ⟨raised, afterFlush, rfl,
          .inr (outbound.trans first (outbound_flush.reached flushed))⟩
      · have second := outbound.trans first (outbound_flush.reached flushed)
        dsimp only
        by_cases prefaced : ¬ http2Preface <+: incomingData
        · simp only [failIf_pos prefaced]
          obtain ⟨raised, after, failed, same⟩ := fail_raises (α := Unit) packages
            "Invalid HTTP/2 connection preface" ErrorCode.protocolError.code afterFlush
          rw [failed]
          exact .inl ⟨raised, after, rfl, .inr (outbound.trans second same)⟩
        · simp only [failIf_neg prefaced, pure_apply]
          rcases received : onConnection (H2Adapter.receiveData packages http2Preface)
              afterFlush with ⟨raised | events, after⟩
          · exact .inl ⟨raised, after, rfl,
              .inr (outbound.trans second ((outbound_onConnection _).reached received))⟩
          · exact .inr ⟨after, outbound.trans second ((outbound_onConnection _).reached received),
              not_not.mp prefaced, rfl⟩

/-- Chunks are taken one after another. -/
theorem receiveAll_took (chunks : List Bytes) (state : HTTP2Session κ δ) :
    Took chunks.flatten state (receiveAll packages chunks state) := by
  -- The induction is on the chunks, from a state with any content.
  induction chunks generalizing state with
  | nil => exact (outbound.refl state).took
  | cons chunk rest ih =>
    rw [flatten_cons]
    exact (receive_took chunk state).bind ih

/-- The octets behind the preface are captured like those of any later chunk. -/
theorem initializeSession_took (first : Bytes) (state : HTTP2Session κ δ) :
    Took first state (initializeSession packages (http2Preface ++ first) state) := by
  have marked : Sound state → Sound { state with initialized := true } :=
    fun sound => sound.sameFrames rfl (le_refl _) id
  rcases initializeSession_cases packages (http2Preface ++ first) state with
    ⟨raised, after, ran, rfl | same⟩ | ⟨after, same, -, ran⟩
  · rw [ran]
    exact .of_raised (prefix_append _ _) id
  · rw [ran]
    exact .of_raised same.advance.raws (same.advance.sound ∘ marked)
  · -- The rest is received from a state that has the same content.
    have content : after.content = state.content ++ [] := by
      rw [same.content, append_nil]
      rfl
    rw [drop_left] at ran
    have received : Took first after (initializeSession packages (http2Preface ++ first) state) := by
      rw [ran]
      by_cases more : first ≠ []
      · rw [runWhen_pos more]
        exact receive_took first after
      · rw [runWhen_neg more, not_not.mp more]
        exact (outbound.refl after).took
    exact received.start content (same.advance.sound ∘ marked)

/--
The capture is lossless, whatever the peer sends and the library does.

The report says so too: its raw frames, headers and trailers read back to the captured ones.
-/
theorem feed_lossless (packages : Packages κ δ) (transport : Transport) (first : Bytes)
    (chunks : List Bytes) (md5 : Text → Text) :
    let result := feed packages (http2Preface ++ first) chunks (create packages transport)
    let report := http2Report md5 (some result.2.capture)
    (result.1 = .ok () → result.2.rawOctets ++ result.2.buffer = first ++ chunks.flatten) ∧
    result.2.rawOctets <+: first ++ chunks.flatten ∧
    (∀ frame ∈ result.2.capture.frames, IsWireFrame frame.raw) ∧
    reportedRaws? report = some result.2.rawOctets ∧
    (report.get? "headers").bind reportedFields? = result.2.capture.headers ∧
    ((report.get? "trailers").map reportedFields?).getD (some []) =
      some result.2.capture.trailers := by
  intro result report
  have took : Took (first ++ chunks.flatten) (create packages transport) result :=
    (initializeSession_took first _).bind (receiveAll_took chunks)
  obtain ⟨whole, raws, sound⟩ := took
  refine ⟨whole, raws, fun frame among => ((sound (sound_create _ _)).genuine frame among).1,
    reportedRaws?_http2Report md5 _, ?_, ?_⟩
  · rw [http2Report_headers]
    cases result.2.capture.headers with
    | none => rfl
    | some fields => exact reportedFields?_fieldsReport fields
  · rw [http2Report_trailers]
    -- Without trailers the report has no entry for them.
    by_cases without : result.2.capture.trailers = []
    · rw [if_pos without, without]
      rfl
    · rw [if_neg without]
      exact reportedFields?_fieldsReport _

end SolveTls.HTTP2Session
