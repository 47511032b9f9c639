import SolveTls.Base.Loop
import SolveTls.Proofs.Http2.SessionSending

/-! The loops of a session end, also on a transport that never stops delivering. -/

namespace SolveTls.HTTP2Session

open Fallible

variable {κ δ : Type} (packages : Packages κ δ)
variable {data content : Bytes} {read : SessionM κ δ Bytes} {place next : Unit} {streamId : Nat}

/-! ### One turn of each loop -/

/-- A turn of `receive_request`, with whatever the transport's read gives. -/
def requestTurn (read : SessionM κ δ Bytes) (_ : Unit) : SessionM κ δ (Option Unit) := do
  let self ← get
  if self.requestReady then
    return none
  else
    let data ← read
    receive packages data
    return some ()

/-- A turn of the loop in `send_response`, which begins at an offset of the content. -/
def responseTurn (streamId : Nat) (content : Bytes) (read : SessionM κ δ Bytes) (offset : Nat) :
    SessionM κ δ (Option Nat) :=
  if offset < content.length then do
    checkCancelled
    let window ← flowControlWindow packages streamId
    let self ← get
    let available := min window (packages.h2.maxOutboundFrameSize self.connection.core)
    if available ≤ 0 then
      -- Without credit the loop can only wait for the peer.
      let data ← read
      receive packages data
      return some offset
    else
      let stop := min (offset + available.toNat) content.length
      callH2 packages fun h2 core =>
        h2.sendData core streamId ((content.drop offset).take (stop - offset))
          (stop = content.length)
      flush
      return some stop
  else
    return none

/-- The loop of `receive_request` on a transport that delivers for ever. -/
def endlessRequest (deliveries : Nat → Except Exn Bytes) :
    Nat × Unit → SessionM κ δ (Option (Nat × Unit)) :=
  scheduled (fun delivery => requestTurn packages (fromExcept delivery)) deliveries

/-- The loop of `send_response` on a transport that delivers for ever. -/
def endlessResponse (deliveries : Nat → Except Exn Bytes) (streamId : Nat) (content : Bytes) :
    Nat × Nat → SessionM κ δ (Option (Nat × Nat)) :=
  scheduled (fun delivery => responseTurn packages streamId content (fromExcept delivery)) deliveries

/-- A turn of the loop in `_receive`. -/
def frameTurn (_ : Unit) : SessionM κ δ (Option Unit) := do
  let self ← get
  if self.buffer.length < frameHeaderSize then
    return none
  else
    let length := Octets.bigEndian (self.buffer.take 3)
    let maximum := packages.h2.maxInboundFrameSize self.connection.core
    failIf packages (length > maximum) "HTTP/2 frame size limit exceeded"
      ErrorCode.frameSizeError.code
    if self.buffer.length < frameHeaderSize + length then
      return none
    else
      modify fun self => { self with buffer := self.buffer.drop (frameHeaderSize + length) }
      receiveFrame packages (self.buffer.take (frameHeaderSize + length)) maximum
      return some ()

/-! ### The loops are made of these turns -/

/-- What follows both branches of a choice follows the one that is taken. -/
private theorem choice_bind {α β : Type} {condition : Prop} [Decidable condition]
    (yes no : SessionM κ δ α) (next : α → SessionM κ δ β) :
    (if condition then yes else no) >>= next =
      if condition then yes >>= next else no >>= next := by
  split <;> rfl

theorem receiveRequestLoop_unrolls (turns : Nat) (place : Unit) :
    receiveRequestLoop packages (turns + 1) =
      requestTurn packages transportRead place >>=
        onward fun _ => receiveRequestLoop packages turns := by
  simp only [receiveRequestLoop, requestTurn, bind_assoc_eq, choice_bind, pure_bind_eq, onward]

theorem sendLoop_unrolls (streamId : Nat) (content : Bytes) (turns offset : Nat) :
    sendLoop packages streamId content (turns + 1) offset =
      responseTurn packages streamId content transportRead offset >>=
        onward (sendLoop packages streamId content turns) := by
  simp only [sendLoop, responseTurn, bind_assoc_eq, choice_bind, pure_bind_eq, onward]

theorem receiveLoop_unrolls (turns : Nat) (place : Unit) :
    receiveLoop packages (turns + 1) =
      frameTurn packages place >>= onward fun _ => receiveLoop packages turns := by
  simp only [receiveLoop, frameTurn, bind_assoc_eq, choice_bind, pure_bind_eq, onward]

/-! ### What a turn uses up -/

variable {packages} {before after : HTTP2Session κ δ}

/-- Every chunk that is received is charged to the byte budget, and within it. -/
theorem receive_charges (ran : receive packages data before = (.ok (), after)) :
    before.captureBytes < after.captureBytes ∧ after.captureBytes ≤ maxCaptureBytes := by
  obtain ⟨nonempty, fits, -⟩ := receive_returned ran
  have counted := (receive_counts nonempty fits ran).2
  have octets := List.length_pos_iff.mpr nonempty
  omega

/-- A read touches nothing but the transport. -/
def OnlyReads (read : SessionM κ δ Bytes) : Prop :=
  ∀ {before data after}, read before = (.ok data, after) → after.captureBytes = before.captureBytes

theorem onlyReads_fromExcept (delivery : Except Exn Bytes) :
    OnlyReads (fromExcept delivery : SessionM κ δ Bytes) := by
  intro before data after ran
  obtain ⟨-, rfl⟩ := fromExcept_eq_ok.mp ran
  rfl

theorem onlyReads_transportRead : OnlyReads (transportRead : SessionM κ δ Bytes) := by
  intro before data after ran
  unfold transportRead at ran
  split at ran
  · cases ran
  · obtain ⟨-, rfl⟩ := Prod.mk.inj ran
    rfl

/-- A turn of `receive_request` that goes on has read a chunk and received it. -/
theorem requestTurn_goes (ran : requestTurn packages read place before = (.ok (some next), after)) :
    ∃ data middle, read before = (.ok data, middle) ∧
      receive packages data middle = (.ok (), after) := by
  simp only [requestTurn, bind_eq_ok, get_eq_ok] at ran
  obtain ⟨_, _, ⟨rfl, rfl⟩, ran⟩ := ran
  split at ran
  · cases (pure_eq_ok.mp ran).1
  · simp only [bind_eq_ok, pure_eq_ok] at ran
    obtain ⟨data, middle, fetched, _, reached, received, -, rfl⟩ := ran
    exact ⟨data, middle, fetched, received⟩

/-- A turn of the sending loop that goes on has received a chunk, or sent a part of the content. -/
theorem responseTurn_goes {offset next : Nat}
    (ran : responseTurn packages streamId content read offset before = (.ok (some next), after)) :
    (next = offset ∧ ∃ data middle, read before = (.ok data, middle) ∧
      receive packages data middle = (.ok (), after)) ∨
    offset < next ∧ next ≤ content.length ∧ Outbound before after := by
  unfold responseTurn at ran
  split at ran
  · simp only [bind_eq_ok, get_eq_ok] at ran
    obtain ⟨_, checked, passed, window, asked, known, self, _, ⟨rfl, rfl⟩, ran⟩ := ran
    obtain ⟨-, -, rfl⟩ := checkCancelled_ok passed
    obtain rfl := flowControlWindow_ok known
    split at ran
    · -- The peer was waited for.
      left
      simp only [bind_eq_ok, pure_eq_ok, Option.some.injEq] at ran
      obtain ⟨data, middle, fetched, _, reached, received, rfl, rfl⟩ := ran
      exact ⟨rfl, data, middle, fetched, received⟩
    · -- A part of the content was sent, which is not empty.
      right
      simp only [bind_eq_ok, pure_eq_ok, Option.some.injEq] at ran
      obtain ⟨_, called, sent, _, flushed, flushing, rfl, rfl⟩ := ran
      have calling := (outbound_callH2 _).reached sent
      refine ⟨?_, Nat.min_le_right _ _, outbound.trans calling (outbound_flush.reached flushing)⟩
      omega
  · cases (pure_eq_ok.mp ran).1

/-- A turn of `receive_request` that goes on has charged an octet. -/
theorem requestTurn_charges (only : OnlyReads read)
    (ran : requestTurn packages read place before = (.ok (some next), after)) :
    before.captureBytes < after.captureBytes ∧ after.captureBytes ≤ maxCaptureBytes := by
  obtain ⟨data, middle, fetched, received⟩ := requestTurn_goes ran
  rw [← only fetched]
  exact receive_charges received

/-- A turn of the sending loop has sent an octet or charged one. -/
def Spends (content : Bytes) (before : HTTP2Session κ δ) (offset : Nat) (after : HTTP2Session κ δ)
    (next : Nat) : Prop :=
  offset < next ∧ next ≤ content.length ∧ after.captureBytes = before.captureBytes ∨
    next = offset ∧ before.captureBytes < after.captureBytes ∧ after.captureBytes ≤ maxCaptureBytes

theorem responseTurn_spends (only : OnlyReads read) {offset next : Nat}
    (ran : responseTurn packages streamId content read offset before = (.ok (some next), after)) :
    Spends content before offset after next := by
  rcases responseTurn_goes ran with ⟨same, data, middle, fetched, received⟩ | ⟨further, inside, sent⟩
  · right
    rw [← only fetched]
    exact ⟨same, receive_charges received⟩
  · left
    exact ⟨further, inside, sent.advance.captureBytes⟩

/-- Receiving a frame does not touch the octets behind it. -/
theorem receiveFrame_unbuffered {wire : Bytes} {maximum : Nat}
    (ran : receiveFrame packages wire maximum before = (.ok (), after)) :
    after.buffer = before.buffer := by
  have commutes : Unbuffered before.buffer before.captureBytes Unit (receiveFrame packages wire maximum) :=
    unbuffered_receiveFrame wire maximum
  have commutes := commutes before
  have same : rebuffer before.buffer before.captureBytes before = before := rfl
  rw [same, ran] at commutes
  rw [(Prod.mk.inj commutes).2]
  rfl

/-- A turn of the receiving loop takes a frame header at least off the buffer. -/
theorem frameTurn_shortens (ran : frameTurn packages place before = (.ok (some next), after)) :
    after.buffer.length + frameHeaderSize ≤ before.buffer.length := by
  simp only [frameTurn, bind_eq_ok, get_eq_ok] at ran
  obtain ⟨_, _, ⟨rfl, rfl⟩, ran⟩ := ran
  split at ran
  · cases (pure_eq_ok.mp ran).1
  · simp only [bind_eq_ok] at ran
    obtain ⟨_, checked, passed, ran⟩ := ran
    split at ran
    · cases (pure_eq_ok.mp ran).1
    · next whole =>
      simp only [bind_eq_ok, modify_eq_ok, pure_eq_ok] at ran
      obtain ⟨_, _, rfl, _, _, received, -, rfl⟩ := ran
      obtain ⟨-, rfl⟩ := failIf_eq_ok.mp passed
      rw [receiveFrame_unbuffered received, List.length_drop]
      omega

/-! ### The loops end -/

/-- What is left of the byte budget. -/
def bytesLeft (session : HTTP2Session κ δ) : Nat := maxCaptureBytes - session.captureBytes

/-- On a transport that delivers for ever, the request or an error comes within the byte budget. -/
theorem receiveRequest_ends (packages : Packages κ δ) (deliveries : Nat → Except Exn Bytes)
    (session : HTTP2Session κ δ) :
    ∃ turns outcome final,
      Ends (endlessRequest packages deliveries) turns (0, ()) session outcome final ∧
        turns ≤ session.bytesLeft := by
  have decreases (place next : Nat × Unit) (state reached : HTTP2Session κ δ)
      (ran : endlessRequest packages deliveries place state = (.ok (some next), reached)) :
      reached.bytesLeft < state.bytesLeft := by
    obtain ⟨charged, within⟩ := requestTurn_charges (onlyReads_fromExcept _) (scheduled_eq_ok ran)
    unfold bytesLeft
    omega
  exact exists_ends (fun _ => bytesLeft) decreases (0, ()) session

/-- On a transport that delivers for ever, the content is sent or an error comes within the content
and the byte budget. -/
theorem sendLoop_ends (packages : Packages κ δ) (deliveries : Nat → Except Exn Bytes) (streamId : Nat)
    (content : Bytes) (session : HTTP2Session κ δ) :
    ∃ turns outcome final,
      Ends (endlessResponse packages deliveries streamId content) turns (0, 0) session outcome final ∧
        turns ≤ content.length + session.bytesLeft := by
  have decreases (place next : Nat × Nat) (state reached : HTTP2Session κ δ)
      (ran : endlessResponse packages deliveries streamId content place state =
        (.ok (some next), reached)) :
      content.length - next.2 + reached.bytesLeft < content.length - place.2 + state.bytesLeft := by
    unfold bytesLeft
    rcases responseTurn_spends (onlyReads_fromExcept _) (scheduled_eq_ok ran) with
      ⟨further, inside, same⟩ | ⟨same, charged, within⟩
    · omega
    · omega
  exact exists_ends (fun place session => content.length - place.2 + session.bytesLeft) decreases
    (0, 0) session

/-- The frames of a buffer are taken off it in no more turns than it has room for headers. -/
theorem receiveLoop_ends (packages : Packages κ δ) (session : HTTP2Session κ δ) :
    ∃ turns outcome final, Ends (frameTurn packages) turns () session outcome final ∧
      turns ≤ session.buffer.length / frameHeaderSize ∧
      receiveLoop packages session.buffer.length session = (outcome, final) := by
  have decreases (place next : Unit) (state reached : HTTP2Session κ δ)
      (ran : frameTurn packages place state = (.ok (some next), reached)) :
      reached.buffer.length / frameHeaderSize < state.buffer.length / frameHeaderSize := by
    have shorter := frameTurn_shortens ran
    simp only [frameHeaderSize] at shorter ⊢
    omega
  obtain ⟨turns, outcome, final, ends, bounded⟩ :=
    exists_ends (fun _ session => session.buffer.length / frameHeaderSize) decreases () session
  refine ⟨turns, outcome, final, ends, bounded, ?_⟩
  -- One turn more than the buffer is long is enough, and then as many as it is long are.
  have enough : turns < session.buffer.length + 1 := by
    have small := Nat.div_le_self session.buffer.length frameHeaderSize
    omega
  rw [← receiveLoop_fuel (Nat.le_refl _)]
  exact ends.bounded (fun turns _ => receiveLoop packages turns) (receiveLoop_unrolls packages) enough

/-- A turn that reads from a script uses up one of its reads. -/
theorem transportRead_shortens (ran : transportRead before = (.ok data, after)) :
    after.transport.reads.length < before.transport.reads.length := by
  unfold transportRead at ran
  split at ran
  · cases ran
  · next outcome rest script =>
    obtain ⟨-, rfl⟩ := Prod.mk.inj ran
    rw [script]
    exact Nat.lt_succ_self _

/-- On a script of reads, the loop of `receive_request` is the loop of its turns. -/
theorem receiveRequestLoop_ends (packages : Packages κ δ) (session : HTTP2Session κ δ) :
    ∃ turns outcome final, Ends (requestTurn packages transportRead) turns () session outcome final ∧
      turns ≤ session.bytesLeft ∧
      receiveRequestLoop packages (session.transport.reads.length + 1) session = (outcome, final) := by
  have decreases (place next : Unit) (state reached : HTTP2Session κ δ)
      (ran : requestTurn packages transportRead place state = (.ok (some next), reached)) :
      min reached.bytesLeft reached.transport.reads.length <
        min state.bytesLeft state.transport.reads.length := by
    obtain ⟨charged, within⟩ := requestTurn_charges onlyReads_transportRead ran
    have shorter : reached.transport.reads.length < state.transport.reads.length := by
      obtain ⟨data, middle, fetched, received⟩ := requestTurn_goes ran
      rw [receive_reads received]
      exact transportRead_shortens fetched
    unfold bytesLeft
    omega
  obtain ⟨turns, outcome, final, ends, bounded⟩ := exists_ends
    (fun _ session => min session.bytesLeft session.transport.reads.length) decreases () session
  refine ⟨turns, outcome, final, ends, by omega, ?_⟩
  exact ends.bounded (fun turns _ => receiveRequestLoop packages turns)
    (receiveRequestLoop_unrolls packages) (by omega)

/-- On a script of reads, the loop of `send_response` is the loop of its turns. -/
theorem sendLoop_scripted (packages : Packages κ δ) (streamId : Nat) (content : Bytes)
    (session : HTTP2Session κ δ) :
    ∃ turns outcome final,
      Ends (responseTurn packages streamId content transportRead) turns 0 session outcome final ∧
        turns ≤ content.length + session.bytesLeft ∧
        sendLoop packages streamId content (content.length + session.transport.reads.length + 1) 0
          session = (outcome, final) := by
  have decreases (offset next : Nat) (state reached : HTTP2Session κ δ)
      (ran : responseTurn packages streamId content transportRead offset state =
        (.ok (some next), reached)) :
      content.length - next + min reached.bytesLeft reached.transport.reads.length <
        content.length - offset + min state.bytesLeft state.transport.reads.length := by
    rcases responseTurn_goes ran with
      ⟨rfl, data, middle, fetched, received⟩ | ⟨further, inside, sent⟩
    · -- A wait uses up a read and some of the byte budget.
      have shorter := transportRead_shortens fetched
      have reads := congrArg List.length (receive_reads received)
      have charged := receive_charges received
      rw [onlyReads_transportRead fetched] at charged
      unfold bytesLeft
      omega
    · -- A part uses up some of the content.
      have reads := congrArg List.length sent.reads
      have counted := sent.advance.captureBytes
      unfold bytesLeft
      omega
  obtain ⟨turns, outcome, final, ends, bounded⟩ := exists_ends
    (fun offset session => content.length - offset +
      min session.bytesLeft session.transport.reads.length) decreases 0 session
  refine ⟨turns, outcome, final, ends, by omega, ?_⟩
  exact ends.bounded (sendLoop packages streamId content)
    (sendLoop_unrolls packages streamId content) (by omega)

/--
Every loop of a session comes to an end, whatever the library does and the transport delivers.

The first two parts are about a transport that never stops delivering; the next three tie the
loops of a transport with a script to the same turns; the last three say what each turn uses up.
-/
theorem loops_end (packages : Packages κ δ) (session : HTTP2Session κ δ) :
    (∀ deliveries, ∃ turns outcome final,
      Ends (endlessRequest packages deliveries) turns (0, ()) session outcome final ∧
        turns ≤ session.bytesLeft) ∧
    (∀ deliveries streamId content, ∃ turns outcome final,
      Ends (endlessResponse packages deliveries streamId content) turns (0, 0) session outcome final ∧
        turns ≤ content.length + session.bytesLeft) ∧
    (∃ turns outcome final,
      Ends (requestTurn packages transportRead) turns () session outcome final ∧
        turns ≤ session.bytesLeft ∧
        receiveRequestLoop packages (session.transport.reads.length + 1) session =
          (outcome, final)) ∧
    (∀ streamId content, ∃ turns outcome final,
      Ends (responseTurn packages streamId content transportRead) turns 0 session outcome final ∧
        turns ≤ content.length + session.bytesLeft ∧
        sendLoop packages streamId content (content.length + session.transport.reads.length + 1) 0
          session = (outcome, final)) ∧
    (∃ turns outcome final, Ends (frameTurn packages) turns () session outcome final ∧
      turns ≤ session.buffer.length / frameHeaderSize ∧
      receiveLoop packages session.buffer.length session = (outcome, final)) ∧
    (∀ read after, OnlyReads read → requestTurn packages read () session = (.ok (some ()), after) →
      session.captureBytes < after.captureBytes ∧ after.captureBytes ≤ maxCaptureBytes) ∧
    (∀ read streamId content offset next after, OnlyReads read →
      responseTurn packages streamId content read offset session = (.ok (some next), after) →
      Spends content session offset after next) ∧
    ∀ after, frameTurn packages () session = (.ok (some ()), after) →
      after.buffer.length + frameHeaderSize ≤ session.buffer.length := by
  refine ⟨?_, ?_, receiveRequestLoop_ends packages session, ?_, receiveLoop_ends packages session,
    ?_, ?_, ?_⟩
  · exact fun deliveries => receiveRequest_ends packages deliveries session
  · exact fun deliveries streamId content =>
      sendLoop_ends packages deliveries streamId content session
  · exact fun streamId content => sendLoop_scripted packages streamId content session
  · exact fun read after only ran => requestTurn_charges only ran
  · exact fun read streamId content offset next after only ran => responseTurn_spends only ran
  · exact fun after ran => frameTurn_shortens ran

end SolveTls.HTTP2Session
