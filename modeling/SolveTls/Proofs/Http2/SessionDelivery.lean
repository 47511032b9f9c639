import SolveTls.Proofs.Http2.SessionGrammar

/-! The three ways in which a session can have finished with a frame. -/

namespace SolveTls.HTTP2Session

open Fallible

variable {κ δ α : Type} {packages : Packages κ δ}
variable {wire shown : Bytes} {frame : ParsedFrame} {state after : HTTP2Session κ δ}

/-- Everything queued was sent, and nothing but the transport noticed. -/
def Sent (delivered after : HTTP2Session κ δ) : Prop :=
  ∃ transport, after = { delivered with
    transport, connection := { delivered.connection with outgoing := [] } }

/-- Put aside, applied as SETTINGS, or shown to the library and followed by its events. -/
inductive Delivery (packages : Packages κ δ) (frame : ParsedFrame) (wire : Bytes)
    (state after : HTTP2Session κ δ) : Prop where
  | aside (own : frame.header.kind ∈ ownKinds) (aside : Aside packages state after)
  | settings {payload : SettingsPayload} {delivered : HTTP2Session κ δ}
    (kind : frame.header.kind = some .settings) (decoded : frame.payload = .settings payload)
    (asks : payload.ack = false)
    (ran : applySettings packages payload.entries (handing state [.settings payload.entries]) =
      (.ok (), delivered)) (sent : Sent delivered after)
  | wire {shown : Bytes} {delivered : HTTP2Session κ δ} (reaches : frame.header.kind ∉ ownKinds)
    (unasked : frame.header.kind ≠ some .settings ∨ frame.header.has FrameFlags.ack = true)
    (converted : wireForH2 frame wire = .ok shown)
    (ran : receiveWire packages shown state = (.ok (), delivered)) (sent : Sent delivered after)

/-- A SETTINGS frame that asks for an acknowledgment was read with entries that fit their fields. -/
theorem settings_of_captured {payload : SettingsPayload}
    (captured : HTTP2FrameReader.Captured wire frame) (decoded : frame.payload = .settings payload)
    (asks : payload.ack = false) :
    frame.header.kind = some .settings ∧ frame.header.has FrameFlags.ack = false ∧
      ∀ entry ∈ payload.entries, entry.1 < 2 ^ 16 ∧ entry.2 < 2 ^ 32 := by
  obtain ⟨-, encodes⟩ := encodes_of_captured captured (by rw [decoded]; rfl)
  rw [decoded] at encodes
  generalize wire.drop frameHeaderSize = body at encodes
  cases encodes with
  | settingsAck => cases asks
  | settings kind unflagged ranges => exact ⟨kind, unflagged, ranges⟩

/-- The flag of the header is the flag of the payload. -/
theorem flagged_of_encodes {header : FrameHeader} {body : Bytes} {payload : Payload}
    {settings : SettingsPayload} (encodes : Encodes header body payload)
    (decoded : payload = .settings settings) (ack : settings.ack = true) :
    header.has FrameFlags.ack = true := by
  -- Of the two forms of SETTINGS only one is an acknowledgment.
  subst decoded
  cases encodes with
  | settingsAck kind flagged => exact flagged
  | settings => cases ack

/-- A delivery that returned has been sent. -/
theorem deliverFrame_sent (ran : deliverFrame packages frame wire state = (.ok (), after)) :
    ∃ shown delivered, wireForH2 frame wire = .ok shown ∧
      deliver packages frame shown state = (.ok (), delivered) ∧ Sent delivered after := by
  obtain ⟨shown, delivered, flushed, converted, ran₁, ran₂, ran₃⟩ := deliverFrame_inverts ran
  refine ⟨shown, delivered, converted, ran₁, ?_⟩
  obtain ⟨transport, shape⟩ := flush_shape delivered
  rw [ran₂] at shape
  obtain rfl : flushed = _ := shape
  -- The pause after SETTINGS touches the transport alone.
  rcases runWhen_eq_ok.mp ran₃ with ⟨-, paused⟩ | ⟨-, rfl⟩
  · simp only [pause] at paused
    split at paused
    · obtain ⟨-, rfl⟩ := Prod.mk.inj paused
      exact ⟨_, rfl⟩
    · cases paused
  · exact ⟨transport, rfl⟩

/-- A processed frame has passed the checks of its place and was dealt with in one of the ways. -/
theorem processFrame_delivery (captured : HTTP2FrameReader.Captured wire frame)
    (ran : processFrame packages frame wire state = (.ok (), after)) :
    Admitted state frame ∧ Delivery packages frame wire (admitting state frame wire) after := by
  obtain ⟨admitted, ⟨own, aside⟩ | ⟨reaches, delivered⟩⟩ := processFrame_cases captured ran
  · exact ⟨admitted, .aside own aside⟩
  · refine ⟨admitted, ?_⟩
    obtain ⟨shown, delivered, converted, ran, sent⟩ := deliverFrame_sent delivered
    by_cases settings : frame.header.kind = some .settings
    · -- Acknowledgments go to the library as they are, settings through the adapter.
      simp only [deliver, if_pos settings] at ran
      cases decoded : frame.payload <;> simp only [decoded] at ran
      case settings payload =>
        cases asks : payload.ack with
        | true =>
          rw [if_pos asks] at ran
          have known : ¬ (frame.header.kind = some .altsvc ∨ frame.header.kind = some .origin) := by
            simp [settings]
          obtain ⟨-, -, -, encodes⟩ := admitted.sound known
          exact .wire reaches (.inr (flagged_of_encodes encodes decoded asks)) converted ran sent
        | false =>
          rw [if_neg (by simp [asks])] at ran
          simp only [recordHanded, bind_eq_ok, modify_eq_ok] at ran
          obtain ⟨_, _, rfl, applied⟩ := ran
          exact .settings settings decoded asks applied sent
      all_goals exact (throw_eq_ok.mp ran).elim
    · simp only [deliver, if_neg settings] at ran
      exact .wire reaches (.inl settings) converted ran sent

/-- What the library is shown has the header fields that the session goes by. -/
theorem headerOf_shown (captured : HTTP2FrameReader.Captured wire frame)
    (converted : wireForH2 frame wire = .ok shown) :
    (headerOf shown).kind = frame.header.kind ∧
      (frame.header.kind ≠ some .headers → shown = wire) := by
  unfold wireForH2 at converted
  by_cases prioritized : frame.header.kind = some .headers ∧ frame.header.has FrameFlags.priority
  · -- A prioritized HEADERS frame is rebuilt as a HEADERS frame.
    rw [if_pos prioritized] at converted
    cases decoded : frame.payload <;> simp only [decoded] at converted
    case headers payload =>
      rw [liftBuilder_eq_ok] at converted
      rw [buildHeadersFrame_ok converted, rebuiltHeaders, prioritized.1]
      refine ⟨?_, fun other => absurd rfl other⟩
      rw [FrameHeader.kind, headerOf_frameBytes]
      rfl
    all_goals cases converted
  · rw [if_neg prioritized] at converted
    obtain rfl := Except.ok.inj converted
    exact ⟨by rw [captured.header], fun _ => rfl⟩

/-- What is shown as octets is no SETTINGS frame, or an acknowledgment. -/
theorem unasked_shown (captured : HTTP2FrameReader.Captured wire frame)
    (converted : wireForH2 frame wire = .ok shown)
    (unasked : frame.header.kind ≠ some .settings ∨ frame.header.has FrameFlags.ack = true) :
    (headerOf shown).kind ≠ some .settings ∨ (headerOf shown).has FrameFlags.ack = true := by
  obtain ⟨kind, same⟩ := headerOf_shown captured converted
  by_cases settings : frame.header.kind = some .settings
  · -- SETTINGS are shown as they came, so the flag is the one of the frame.
    have unchanged : shown = wire := same (by simp [settings])
    rcases unasked with other | flagged
    · exact absurd settings other
    · exact .inr (by rw [unchanged, ← captured.header]; exact flagged)
  · exact .inl (by rw [kind]; exact settings)

end SolveTls.HTTP2Session
