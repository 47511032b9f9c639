import SolveTls.Proofs.Http2.LibraryCalls
import SolveTls.Proofs.Http2.SessionCapture

/-! What has to be shown of library calls and failures to know it of every exit of a received chunk. -/

namespace SolveTls.HTTP2Session

open Fallible Exits

variable {κ δ α : Type} {packages : Packages κ δ} {exits final : Exits (HTTP2Session κ δ) Exn}
variable {wire : Bytes} {frame : ParsedFrame}

/-- A HEADERS frame that cannot be rebuilt is an error of the program itself. -/
theorem raisesOnly_wireForH2 (frame : ParsedFrame) (wire : Bytes) :
    RaisesOnly Exn.isOwn (wireForH2 frame wire) := by
  refine raisesOnly_ite ?_ (raisesOnly_ok wire)
  cases frame.payload with
  | headers payload => exact raisesOnly_liftBuilder _
  | _ => exact raisesOnly_error rfl

/-! ### The events of a frame -/

/-- Exits of what the session does about a frame, apart from a first request. -/
structure Tending (packages : Packages κ δ) (exits : Exits (HTTP2Session κ δ) Exn) : Prop
    extends exits.Chained where
  /-- Bookkeeping that concerns neither the connection nor the output, and forgets no request. -/
  notes : ∀ {before after : HTTP2Session κ δ}, after.connection = before.connection →
    after.transport = before.transport → after.closed = before.closed →
    after.history.errors = before.history.errors →
    (before.capture.streamId.isSome = true → after.capture.streamId.isSome = true) →
      exits.returns before after
  /-- Errors of the program itself, other than those it fails with. -/
  throws : ∀ (state : HTTP2Session κ δ) (raised : Exn), raised.isOwn = true →
    exits.raises state raised state
  /-- Errors of checking fields, other than those it is answered with. -/
  validates : ∀ {state : HTTP2Session κ δ} {headers : List Field} {trailers : Bool} {raised : Exn},
    validateFields packages headers trailers = .error raised →
    (∀ message code, raised ≠ .protocolError message code) → exits.raises state raised state
  resets : ∀ streamId errorCode,
    exits.Covers (callH2 packages (Outcall.reset streamId errorCode).method)
  acknowledges : ∀ length streamId,
    exits.Covers (callH2 packages (Outcall.acknowledge length streamId).method)
  counts : exits.Covers (countOpen packages)
  fails : ∀ (α : Type) (message : String) (errorCode : Nat), IsFault errorCode →
    exits.Covers (fail packages message errorCode : SessionM κ δ α)

namespace Tending

section Steps

variable (tending : Tending packages exits)

include tending

/-- What an event leads to is covered step by step. -/
theorem reacting : Reacting packages fun _ action => exits.Covers action where
  toLooking := looking_covers tending.toChained
  throws own := Exits.covers_throw fun state => tending.throws state _ own
  validates failed other := Exits.covers_throw fun _ => tending.validates failed other
  counts := tending.counts
  fails message _ faulty := tending.fails _ message _ faulty
  acknowledges := tending.acknowledges
  notes note := by
    cases note <;> exact covers_modify fun _ => tending.notes rfl rfl rfl rfl id

omit tending in
/-- The last step of a method may have exits of its own. -/
theorem leading (chained : exits.Chained) (leads : exits.Leads final) :
    Leading (fun _ action => exits.Covers action) fun _ action => final.Covers action where
  stops := leads.covers
  bind := leads.covers_bind
  looks _ later := leads.covers_bind chained.covers_get later

/-- A first request is dealt with if it may be told to continue, which is done last. -/
theorem covers_processRequest (leads : exits.Leads final) (streamId : Nat)
    (headers : Option (List Field)) (streamEnded : Bool)
    (continues : streamEnded = false → ∀ fields,
      final.Covers (callH2 packages (Outcall.headers streamId fields false).method)) :
    final.Covers (processRequest packages streamId headers streamEnded) := by
  have ends := leading tending.toChained leads
  refine tending.reacting.on_processRequest ends headers
    (covers_modify fun _ => tending.notes rfl rfl rfl rfl id) (tending.resets _ _) fun fields => ?_
  refine tending.reacting.on_acceptRequest _ ends _ _ _ (fun next later => ?_) continues
  exact leads.covers_bind (covers_modify fun _ => tending.notes rfl rfl rfl rfl fun _ => rfl)
    fun _ => later

/-- A further request is refused on its own stream. -/
theorem at_processRequest {state : HTTP2Session κ δ}
    (captured : state.capture.streamId.isSome = true) (streamId : Nat)
    (headers : Option (List Field)) (streamEnded : Bool) :
    exits.At state (processRequest packages streamId headers streamEnded) := by
  refine tending.at_bind ?_ fun _ filtered ran => ?_
  · apply covers_modify
    intro state
    exact tending.notes rfl rfl rfl rfl id
  · -- The stream of the captured request is still there after the bookkeeping.
    obtain rfl := modify_eq_ok.mp ran
    refine tending.at_bind (tending.covers_get _) fun self reached ran => ?_
    obtain ⟨rfl, rfl⟩ := get_eq_ok.mp ran
    rw [if_pos captured]
    exact tending.resets _ _ _

/-- Every event is dealt with if requests are. -/
theorem covers_processEvent (event : Event)
    (requests : ∀ streamId headers streamEnded,
      event = .requestReceived streamId headers streamEnded →
        exits.Covers (processRequest packages streamId headers streamEnded)) :
    exits.Covers (processEvent packages event) :=
  tending.reacting.on_processEvent event requests fun _ _ _ =>
    tending.reacting.on_processTrailers
      (fun _ => covers_modify fun _ => tending.notes rfl rfl rfl rfl id) _ _

/-- The events of a frame are dealt with one after another. -/
theorem covers_processEvents (events : List Event)
    (requests : ∀ streamId headers streamEnded,
      Event.requestReceived streamId headers streamEnded ∈ events →
        exits.Covers (processRequest packages streamId headers streamEnded)) :
    exits.Covers (processEvents packages events) := by
  refine tending.reacting.on_processEvents events fun event among =>
    tending.covers_processEvent event ?_
  rintro streamId headers streamEnded rfl
  exact requests _ _ _ among

omit tending in
/-- The fault of a payload that was captured is an error. -/
theorem isFault_of_captured (captured : HTTP2FrameReader.Captured wire frame) (message : String)
    (code : Nat) (fault : parseFault frame.payload = some (message, code)) : IsFault code := by
  rcases captured.payload with ⟨-, encodes⟩ | ⟨error, said, faulty, decoded⟩
  · -- A payload that was read has no fault.
    have sound : parseFault frame.payload = none := by
      generalize frame.payload = payload, wire.drop frameHeaderSize = body at encodes
      cases encodes <;> rfl
    rw [sound] at fault
    cases fault
  · have known : parseFault frame.payload = some (error.message, error.code) := by
      rw [decoded]
      exact if_neg said
    obtain ⟨-, rfl⟩ := Prod.mk.inj (Option.some.inj (known.symm.trans fault))
    -- Each of the codes a reader raises is an error.
    rcases faulty with code | code | code <;> rw [code] <;> decide

end Steps

end Tending

/-! ### Delivering a frame to the connection -/

/-- Exits of what passing a frame on to the connection leads to. -/
structure Delivering (packages : Packages κ δ) (exits : Exits (HTTP2Session κ δ) Exn) : Prop
    extends Tending packages exits where
  takes : ∀ wire, exits.Covers (onConnection (H2Adapter.receiveData packages wire))
  /-- An acknowledgment may be taken back. -/
  drains : exits.Covers (onConnection H2Adapter.dataToSend : SessionM κ δ (List WireFrame))
  charges : ∀ changes, exits.Covers (onConnection (modify fun connection =>
    { connection with headerTableSizeChanges := connection.headerTableSizeChanges + changes }) :
      SessionM κ δ Unit)
  pauses : exits.Covers (pause : SessionM κ δ Unit)
  /-- Too many table sizes end the connection. -/
  quits : ∀ message, exits.Covers (do
    callH2 packages fun h2 core => h2.closeConnection core ErrorCode.enhanceYourCalm.code none
    recordError
    throw (.protocolError message ErrorCode.enhanceYourCalm.code) : SessionM κ δ Unit)

namespace Delivering

section Frames

variable (delivering : Delivering packages exits)

include delivering

/-- The entries of a SETTINGS frame are covered step by step. -/
theorem applying : Applying packages fun _ action => exits.Covers action where
  toLooking := looking_covers delivering.toChained
  throws := delivering.reacting.throws
  receives items := (looking_covers delivering.toChained).on_receiveSettings
    delivering.reacting.throws items
    (covers_modify fun _ => delivering.notes rfl rfl rfl rfl id) delivering.takes
  drains := delivering.drains
  charges := delivering.charges
  pauses := delivering.pauses
  quits := delivering.quits

theorem covers_receiveWire
    (requests : ∀ streamId headers streamEnded,
      exits.Covers (processRequest packages streamId headers streamEnded)) (wire : Bytes) :
    exits.Covers (receiveWire packages wire) :=
  delivering.covers_bind (covers_modify fun _ => delivering.notes rfl rfl rfl rfl id) fun _ =>
    delivering.covers_bind (delivering.takes wire) fun events =>
      delivering.covers_processEvents events fun _ _ _ _ => requests _ _ _

/-- A frame is delivered as the exits say if its events are dealt with like that. -/
theorem covers_deliver (leads : exits.Leads final) (frame : ParsedFrame)
    (wires : final.Covers (receiveWire packages wire)) :
    final.Covers (deliver packages frame wire) :=
  delivering.applying.on_deliver (Tending.leading delivering.toChained leads) frame
    (fun _ => covers_modify fun _ => delivering.notes rfl rfl rfl rfl id) wires

end Frames

end Delivering

/-! ### Receiving a chunk -/

/-- Exits of everything a received chunk leads to. -/
structure Attending (packages : Packages κ δ) (exits : Exits (HTTP2Session κ δ) Exn) : Prop
    extends Tending packages exits where
  /-- What a frame leads to is sent before anything else happens. -/
  delivers : ∀ frame wire, IsWireFrame wire →
    exits.Covers (do tryCatch (deliver packages frame wire) handleProtocolError; flush)
  flushes : exits.Covers (flush : SessionM κ δ Unit)
  pauses : exits.Covers (pause : SessionM κ δ Unit)

namespace Attending

section Chunks

variable (attending : Attending packages exits)

include attending

theorem covers_deliverFrame (frame : ParsedFrame)
    (framed : IsWireFrame wire) : exits.Covers (deliverFrame packages frame wire) := by
  unfold deliverFrame
  cases converted : wireForH2 frame wire with
  | error raised =>
    exact covers_throw fun state =>
      attending.throws state raised (raisesOnly_wireForH2 frame wire raised converted)
  | ok shown =>
    have delivers := attending.delivers frame shown (isWireFrame_wireForH2 framed converted)
    have grouped := attending.covers_bind delivers fun _ =>
      attending.covers_runWhen fun _ : asksForAck frame = true => attending.pauses
    rw [bind_assoc_eq] at grouped
    exact grouped

theorem covers_processFrame (captured : HTTP2FrameReader.Captured wire frame) :
    exits.Covers (processFrame packages frame wire) := by
  have reacting := attending.reacting
  refine reacting.on_processFrame ?_ _
    (fun _ later => attending.covers_bind
      (covers_modify fun _ => attending.notes rfl rfl rfl rfl id) fun _ => later)
    (reacting.on_checkFirstFrame frame
      (covers_modify fun _ => attending.notes rfl rfl rfl rfl id)
      fun _ => covers_modify fun _ => attending.notes rfl rfl rfl rfl id)
    (reacting.on_rejectMalformed frame (Tending.isFault_of_captured captured))
    (reacting.on_processParsed (attending.covers_deliverFrame frame captured.framed) fun _ =>
      reacting.on_processPriorityUpdate _ (covers_modify fun _ =>
        attending.notes rfl rfl rfl rfl id))
  intro note
  cases note <;> exact covers_modify fun _ => attending.notes rfl rfl rfl rfl id

theorem covers_receiveFrame {maximum : Nat} (framed : IsWireFrame wire)
    (fits : (headerOf wire).length ≤ maximum) :
    exits.Covers (receiveFrame packages wire maximum) := by
  refine attending.covers_bind attending.covers_get fun self => ?_
  dsimp only
  rcases HTTP2FrameReader.parseFrame_cases framed fits with
    ⟨frame, reader, parsed, captured, -⟩ | ⟨error, reader, parsed, calm⟩
  · rw [parsed]
    -- The entries are charged and the frame is kept before it is processed.
    refine attending.covers_bind (covers_modify fun _ => attending.notes rfl rfl rfl rfl id) fun _ =>
      attending.covers_bind attending.covers_get fun _ =>
        attending.covers_bind (attending.reacting.on_failIf _ _ (by decide)) fun _ => ?_
    exact attending.covers_bind (covers_modify fun _ => attending.notes rfl rfl rfl rfl id) fun _ =>
      attending.covers_processFrame captured
  · rw [parsed]
    refine attending.fails _ _ _ ?_
    rw [calm]
    decide

/-- Every exit of a received chunk is one of the exits. -/
theorem covers_receive (data : Bytes) : exits.Covers (receive packages data) :=
  HTTP2Session.covers_receive attending.toChained (fun _ _ _ => attending.notes rfl rfl rfl rfl id)
    (fun message _ => attending.fails Unit message _) attending.covers_receiveFrame
    (fun state message => attending.throws state (.connection message) rfl) attending.flushes data

end Chunks

end Attending

end SolveTls.HTTP2Session
