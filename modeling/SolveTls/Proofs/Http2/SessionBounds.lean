import SolveTls.Proofs.Http2.SessionGrammar

/-! The resources a capture takes are bounded in every state a session can reach. -/

namespace SolveTls.HTTP2Session

open Fallible Reference

variable {κ δ : Type} {packages : Packages κ δ}
variable {before after : HTTP2Session κ δ}

/-! ### Bounds that survive errors -/

/-- A sound capture whose octets were all charged, and are within the budget. -/
structure Bounded (session : HTTP2Session κ δ) : Prop where
  sound : Sound session
  charged : session.content.length ≤ session.captureBytes
  budget : session.content.length ≤ maxCaptureBytes

theorem bounded_create (packages : Packages κ δ) (transport : Transport) :
    Bounded (create packages transport) :=
  ⟨sound_create packages transport, Nat.zero_le _, Nat.zero_le _⟩

/-- The content can only shrink by an advance, and the charges stay. -/
theorem Bounded.advance (bounded : Bounded before) (advance : Advance before after) :
    Bounded after := by
  refine ⟨advance.sound bounded.sound, ?_, advance.shrinks.trans bounded.budget⟩
  rw [advance.captureBytes]
  exact advance.shrinks.trans bounded.charged

theorem Bounded.outbound (same : Outbound before after) (bounded : Bounded before) :
    Bounded after :=
  bounded.advance same.advance

/-- A chunk is charged before it is kept, so the bounds hold however its reception ends. -/
theorem bounded_receive (data : Bytes) : Within (Keeps Bounded) (receive packages data) := by
  intro state bounded
  have charged : Bounded (state.charge data) :=
    ⟨bounded.sound.sameFrames rfl (le_refl _) id, Nat.le_add_right_of_le bounded.charged,
      bounded.budget⟩
  rcases receive_cases packages data state with
    ⟨-, raised, ran⟩ | ⟨-, -, raised, after, ran, same⟩ | ⟨-, fits, ran⟩
  · rw [ran]
    exact bounded
  · rw [ran]
    exact charged.outbound same
  · rw [ran]
    -- Only here do the octets enter the buffer, and the budget has room for them.
    have length : (state.extend data).content.length = state.content.length + data.length := by
      simp only [content, rawOctets, extend, charge, List.length_append]
      omega
    have extended : Bounded (state.extend data) := by
      refine ⟨bounded.sound.sameFrames rfl (le_refl _) id, ?_, ?_⟩
      · rw [length]
        exact Nat.add_le_add_right bounded.charged _
      · rw [length]
        exact (Nat.add_le_add_right bounded.charged _).trans fits
    refine bind_ends (fun _ _ looped => ?_) fun _ reached looped => ?_
    · exact extended.advance (advance_receiveLoop.reached looped)
    · exact (extended.advance (advance_receiveLoop.reached looped)).outbound
        (outbound_afterLoop reached)

theorem carried_bounded : Carried packages (Keeps (Bounded (κ := κ) (δ := δ))) where
  toProgress := keeps Bounded
  sends same bounded := bounded.outbound same
  begins _ bounded := ⟨bounded.sound.sameFrames rfl (le_refl _) id, bounded.charged, bounded.budget⟩
  reads _ _ bounded := ⟨bounded.sound.sameFrames rfl (le_refl _) id, bounded.charged, bounded.budget⟩
  receives := bounded_receive

/-! ### Bounds after a received chunk -/

/-- With enough turns the loop returns only at an incomplete frame within the size limit. -/
theorem receiveLoop_exit {turns : Nat} (enough : before.buffer.length ≤ turns)
    (ran : receiveLoop packages turns before = (.ok (), after)) :
    after.buffer.length < frameHeaderSize + inboundLimit packages after := by
  induction turns generalizing before with
  | zero =>
    obtain ⟨-, rfl⟩ := pure_eq_ok.mp ran
    simp only [frameHeaderSize]
    omega
  | succ turns ih =>
    rcases receiveLoop_turn packages turns before with
      ⟨stopped, below⟩ | ⟨raised, reached, failed, -⟩ | ⟨wire, rest, cut, framed, fits, taken⟩
    · rw [stopped] at ran
      obtain ⟨-, rfl⟩ := Prod.mk.inj ran
      exact below
    · rw [failed] at ran
      cases ran
    · rw [taken, bind_eq_ok] at ran
      obtain ⟨_, reached, received, looped⟩ := ran
      refine ih ?_ looped
      rw [receiveFrame_buffer framed fits received]
      exact rest_shorter cut framed enough

/-- After a chunk that was received, less than one frame of the allowed size is left over. -/
theorem receive_leftover {data : Bytes} (ran : receive packages data before = (.ok (), after)) :
    after.buffer.length < frameHeaderSize + inboundLimit packages after := by
  obtain ⟨-, -, reached, ran₁, ran₂, -⟩ := receive_returned ran
  have enough : (before.extend data).buffer.length ≤ (before.buffer ++ data).length := le_refl _
  have exits := receiveLoop_exit enough ran₁
  -- Sending changes neither the buffer nor the limit.
  have buffer := (outbound_flush.reached ran₂).handling.buffer
  have connection := flush_connection reached
  rw [ran₂] at connection
  simp only [inboundLimit] at exits ⊢
  rw [buffer, connection]
  exact exits

/--
The resources of a capture are bounded in every state of every run, raised or not.

After each chunk that is received, also while a response is sent, less than one frame is left over
and the open header block is within its limit.
-/
theorem run_bounded {raised : Bool} {state : HTTP2Session κ δ}
    (run : Run packages raised state) :
    state.capture.frames.length ≤ maxCaptureFrames ∧
    (state.capture.frames.map fun frame => frame.raw.length).sum + state.buffer.length ≤
      maxCaptureBytes ∧
    state.entriesKept ≤ state.captureEntries ∧
    state.entriesCharged ≤ state.captureEntries ∧
    state.captureEntries ≤ maxCaptureEntries ∧
    ∀ waiting data after, Waiting packages waiting →
      receive packages data waiting = (.ok (), after) →
      after.buffer.length < frameHeaderSize + inboundLimit packages after ∧
      after.headerBlockBytes ≤ maxHeaderListSize := by
  have bounded : Bounded state := run.always (bounded_create packages) carried_bounded.within_perform
  refine ⟨bounded.sound.frames, ?_, bounded.sound.kept.trans bounded.sound.charged,
    bounded.sound.charged, bounded.sound.budget, fun waiting data after waits ran => ?_⟩
  · have budget := bounded.budget
    rwa [content, rawOctets, List.length_append, List.length_flatMap] at budget
  · exact ⟨receive_leftover ran, (Waiting.receives waits ran).accepting.bounded⟩

/-- A plain request leaves two frames and two entries behind. -/
theorem run_bounded_requested :
    requested.capture.frames.length = 2 ∧ requested.captureEntries = 2 ∧
    requested.capture.frames.length ≤ maxCaptureFrames ∧
    requested.entriesKept ≤ requested.captureEntries := by
  obtain ⟨frames, -, kept, -⟩ := run_bounded run_requested
  exact ⟨by decide +kernel, by decide +kernel, frames, kept⟩

end SolveTls.HTTP2Session
