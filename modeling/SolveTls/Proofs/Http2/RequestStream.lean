import SolveTls.Proofs.Http2.HeaderBlocks

/-! A session that has not raised follows the header blocks and the request of its frames. -/

namespace SolveTls

open Fallible H2

variable {κ δ α : Type} {packages : Packages κ δ} {view : κ → View}

/-! ### The request, apart from the connection it comes on -/

/-- What a session knows of the request it serves. -/
structure RequestState where
  streamId : Option Nat
  headers : Option (List Field)
  expectationFailed : Bool
  ready : Bool
  octets : Nat
  expected : Option Nat

namespace RequestState

open HTTP2Session

/-- What the event with a part of a request makes of the one that is served. -/
inductive Deals (packages : Packages κ δ) : Event → RequestState → RequestState → Prop where
  | data {streamId length : Nat} {data : Bytes} {state : RequestState}
    (within : state.streamId = some streamId → state.octets + data.length ≤ maxRequestBody) :
    Deals packages (.dataReceived streamId data length) state { state with
      octets := if state.streamId = some streamId then state.octets + data.length
        else state.octets }
  | ended {streamId : Nat} {state : RequestState} (served : state.streamId = some streamId)
    (agrees : ∀ expected ∈ state.expected, expected = state.octets) :
    Deals packages (.streamEnded streamId) state { state with ready := true }
  | elsewhere {streamId : Nat} {state : RequestState} (other : state.streamId ≠ some streamId) :
    Deals packages (.streamEnded streamId) state state
  | trailers {streamId : Nat} {fields : List Field} {state : RequestState} :
    Deals packages (.trailersReceived streamId (some fields)) state state
  | refused {streamId : Nat} {headers : Option (List Field)} {ended : Bool} {state : RequestState}
    (served : state.streamId.isSome = true) :
    Deals packages (.requestReceived streamId headers ended) state state
  | accepted {streamId : Nat} {fields : List Field} {ended expectationFailed ready : Bool}
    {state : RequestState} (first : state.streamId = none)
    (valid : validateFields packages fields false = .ok ())
    (limited : ∀ declared ∈ declaredLength fields, declared ≤ maxRequestBody)
    -- Only an unknown expectation or a tunnel makes a request ready by itself.
    (byItself : ready = true → state.ready = true ∨ expectationFailed = true ∨ isConnect fields) :
    Deals packages (.requestReceived streamId (some fields) ended) state { state with
      streamId := some streamId
      headers := some fields
      expectationFailed, ready
      expected := (declaredLength fields).or state.expected }

/-- Events are dealt with one after another. -/
inductive Dealt (packages : Packages κ δ) : List Event → RequestState → RequestState → Prop where
  | nil {state : RequestState} : Dealt packages [] state state
  | cons {event : Event} {rest : List Event} {first second last : RequestState}
    (deals : Deals packages event first second) (dealt : Dealt packages rest second last) :
    Dealt packages (event :: rest) first last

end RequestState

namespace HTTP2Session

open RequestState

variable {before after delivered state : HTTP2Session κ δ} {events : List Event}
  {frame : ParsedFrame} {wire : Bytes}

/-- The request that a session serves. -/
def request (session : HTTP2Session κ δ) : RequestState where
  streamId := session.capture.streamId
  headers := session.capture.headers
  expectationFailed := session.capture.expectationFailed
  ready := session.requestReady
  octets := session.requestBytes
  expected := session.expectedLength

/-- An event with content changes the request as it should, and the library may only answer. -/
theorem processEvent_deals (streams : packages.h2.Streams view) {event : Event}
    (content : isContent event = true)
    (ran : processEvent packages event before = (.ok (), after)) :
    Answers view before.connection after.connection ∧
      Deals packages event before.request after.request := by
  cases event with
  | other => cases content
  | streamReset streamId => cases content
  | dataReceived streamId data length =>
    obtain ⟨connection, answers, within, rfl⟩ := processData_ok streams ran
    exact ⟨answers, .data within⟩
  | streamEnded streamId =>
    rcases processEnd_ok ran with ⟨served, agrees, rfl⟩ | ⟨other, rfl⟩
    · exact ⟨Answers.refl _, .ended served agrees⟩
    · exact ⟨Answers.refl _, .elsewhere other⟩
  | trailersReceived streamId headers =>
    obtain ⟨fields, rfl, rfl⟩ := processTrailers_ok ran
    -- Trailers go to the capture and are no part of the request served.
    split
    · exact ⟨Answers.refl _, .trailers⟩
    · exact ⟨Answers.refl _, .trailers⟩
  | requestReceived streamId headers ended =>
    obtain ⟨answers, ⟨served, connection, idle, rfl⟩ | ⟨first, fields, rfl, valid, accepts⟩⟩ :=
      processRequest_ok streams ran
    · exact ⟨answers, .refused served⟩
    · obtain ⟨⟨connection, idle, failed, ready, rfl⟩, limited, byItself⟩ := accepts
      exact ⟨answers, .accepted first valid limited byItself⟩

/-- A skipped event is no part of the request. -/
theorem Skipped.request (skipped : Skipped before after) :
    after.request = before.request ∧ after.connection = before.connection := by
  obtain ⟨cancelled, rfl⟩ := skipped
  exact ⟨rfl, rfl⟩

/-- The events of a frame are dealt with in order, those without content left out. -/
theorem processEvents_deals (streams : packages.h2.Streams view)
    (ran : processEvents packages events before = (.ok (), after)) :
    Answers view before.connection after.connection ∧
      Dealt packages (events.filter isContent) before.request after.request := by
  -- The induction is on the events.
  induction events generalizing before with
  | nil =>
    obtain ⟨-, rfl⟩ := pure_eq_ok.mp ran
    exact ⟨Answers.refl _, .nil⟩
  | cons event rest ih =>
    simp only [processEvents, bind_eq_ok] at ran
    obtain ⟨_, middle, ran₁, ran₂⟩ := ran
    obtain ⟨answers, dealt⟩ := ih ran₂
    cases content : isContent event with
    | true =>
      obtain ⟨answers₁, deals⟩ := processEvent_deals streams content ran₁
      rw [List.filter_cons_of_pos content]
      exact ⟨answers₁.trans answers, .cons deals dealt⟩
    | false =>
      obtain ⟨same, connection⟩ := (processEvent_skipped content ran₁).request
      rw [List.filter_cons_of_neg (by simp [content])]
      rw [same] at dealt
      rw [connection] at answers
      exact ⟨answers, dealt⟩

/-! ### SETTINGS concern no stream -/

/-- Where no block is open, streams may have been cut short and nothing was decoded. -/
def LeavesStreams (view : κ → View) (before after : HTTP2Session κ δ) : Prop :=
  (view before.connection.core).block = none → Answers view before.connection after.connection

/-- Such steps may follow one another. -/
theorem leavesStreams : Progress (LeavesStreams (κ := κ) (δ := δ) view) where
  refl state _ := Answers.refl state.connection
  trans first second closed := by
    -- The first half leaves the block closed for the second.
    have answers := first closed
    exact answers.trans (second (answers.settles.1.trans closed))

/-- SETTINGS at most settle what streams may still send. -/
theorem leavesStreams_receiveSettings (streams : packages.h2.Streams view) (items : Dict Nat Nat) :
    Returning (LeavesStreams view) (receiveSettings packages items) := by
  intro before value after ran closed
  obtain ⟨wire, payload, events, framed, encodes, called⟩ := receiveSettings_called ran
  obtain ⟨reacts, decoded⟩ := H2Adapter.call_decodes packages.hpack
    (streams.receives before.connection.core wire _ framed encodes (by simp [closed])) called
  exact ⟨((reacts events rfl).settles rfl).2, decoded⟩

/-- Applied at once or one by one, settings leave the streams to themselves. -/
theorem leavesStreams_applySettings (streams : packages.h2.Streams view) (entries : List (Nat × Nat)) :
    Returning (LeavesStreams view) (applySettings packages entries) := by
  refine (applying_returning leavesStreams (fun core decoder _ _ => ⟨?_, decoder⟩)
    (leavesStreams_receiveSettings streams)).on_applySettings entries
  rw [core]
  exact H2.View.Settles.refl _

/-! ### One frame -/

/-- What a frame did that was processed to its end. -/
structure FollowsFrame (packages : Packages κ δ) (view : κ → View) (frame : ParsedFrame)
    (before after : HTTP2Session κ δ) (events : List Event) (reacted : View) : Prop where
  reacts : Reacts frame.header.streamId frame.payload (view before.connection.core) events reacted
  settles : reacted.Settles (view after.connection.core)
  decoded : Decoded packages.hpack
    (completes (view before.connection.core).block frame.header.streamId frame.payload)
    before.connection.decoder after.connection.decoder
  dealt : Dealt packages
    (events.map (H2Adapter.withOriginalHeaders after.connection.decoder.originalHeaders))
    before.request after.request

/-- A frame without content at most cuts streams short. -/
theorem followsFrame_aside (aside : isAside frame.payload = true)
    (answers : Answers view before.connection after.connection)
    (same : after.request = before.request) :
    FollowsFrame packages view frame before after [] (view after.connection.core) := by
  refine ⟨reacts_aside aside answers.settles, H2.View.Settles.refl _, ?_, ?_⟩
  · rw [completes_aside aside]
    exact answers.decoder
  · rw [same]
    exact .nil

/-- Sending is no part of the request. -/
theorem Sent.request (sent : Sent delivered after) :
    after.request = delivered.request := by
  obtain ⟨transport, rfl⟩ := sent
  rfl

/-- Sending leaves the library as it is. -/
theorem Sent.answers (sent : Sent delivered after) :
    Answers view delivered.connection after.connection := by
  obtain ⟨transport, rfl⟩ := sent
  exact ⟨H2.View.Settles.refl _, rfl⟩

/-- Output is no part of the request. -/
theorem Outbound.request (same : Outbound before after) :
    after.request = before.request := by
  obtain ⟨⟨connection, transport, closed, applied, errors, rfl⟩, -, -⟩ := same
  rfl

/-- What the library made of a frame, and the events left to deal with. -/
theorem receiveWire_reacts (streams : packages.h2.Streams view) {shown : Bytes} {payload : Payload}
    (stands : Stands frame shown payload) (placed : Placed (view state.connection.core).block frame)
    (ran : receiveWire packages shown state = (.ok (), after)) :
    ∃ (connection : H2Adapter κ δ) (events : List Event),
      Reacts frame.header.streamId frame.payload (view state.connection.core)
        (events.filter isContent) (view connection.core) ∧
      Decoded packages.hpack
        (completes (view state.connection.core).block frame.header.streamId frame.payload)
        state.connection.decoder connection.decoder ∧
      processEvents packages
        (events.map (H2Adapter.withOriginalHeaders connection.decoder.originalHeaders))
        { handing state [.wire shown] with connection } = (.ok (), after) := by
  rcases receiveWire_cases (streams.receives state.connection.core shown payload stands.framed
    stands.encodes (stands.placed placed)) with
    ⟨raised, failed, refused, -⟩ | ⟨connection, events, reacts, decoded, processed⟩
  · rw [refused] at ran
    cases (Prod.mk.inj ran).1
  · rw [stands.completes] at decoded
    rw [processed] at ran
    exact ⟨connection, events, stands.reacts reacts, decoded, ran⟩

/-- The block that the library has open. -/
def openBlock (view : κ → View) (core : κ) : Option OpenBlock := (view core).block

/-- A frame that was processed to its end had the library react, and its events dealt with. -/
theorem processFrame_follows (streams : packages.h2.Streams view)
    (captured : HTTP2FrameReader.Captured wire frame) (aligned : Aligned (openBlock view) state)
    (ran : processFrame packages frame wire state = (.ok (), after)) :
    ∃ events reacted, FollowsFrame packages view frame state after events reacted := by
  obtain ⟨admitted, delivery⟩ := processFrame_delivery captured ran
  have placed := aligned.placed admitted
  cases delivery with
  | aside own aside =>
    have silent := isAside_of_ownKinds captured own
    obtain ⟨⟨idle, cancelled, core, rfl⟩, counted, -⟩ := aside
    refine ⟨[], _, followsFrame_aside silent ⟨?_, rfl⟩ rfl⟩
    -- At most the open streams were counted.
    rcases counted with same | same
    · have unchanged : core = state.connection.core := same
      rw [unchanged]
      exact H2.View.Settles.refl _
    · have counts : core = (packages.h2.openInboundStreams state.connection.core).2 := same
      simp only [counts, streams.opens]
      exact H2.View.Settles.refl _
  | settings kind decoded asks applied sent =>
    have silent : isAside frame.payload = true := by
      rw [decoded]
      rfl
    have answers := leavesStreams_applySettings streams _ applied
      (placed.closed (by simp [decoded]))
    have same := ((outbound_applySettings _).reached applied).request
    exact ⟨[], _, followsFrame_aside silent (answers.trans sent.answers) (sent.request.trans same)⟩
  | wire reaches unasked converted ran sent =>
    obtain ⟨payload, stands⟩ := admitted.stands captured reaches converted
    -- The checks of its place have not touched the connection.
    have placed' : Placed (view (admitting state frame wire).connection.core).block frame := placed
    obtain ⟨connection, events, reacts, decoded, ran₁⟩ :=
      receiveWire_reacts streams stands placed' ran
    obtain ⟨answers, dealt⟩ := processEvents_deals streams ran₁
    have answered := answers.trans sent.answers
    refine ⟨events.filter isContent, view connection.core, reacts, answered.settles, ?_, ?_⟩
    · rw [answered.decoder]
      exact decoded
    · rw [answered.decoder, ← filter_withOriginalHeaders, sent.request]
      exact dealt

/-- What becomes of a session over a frame that it captures and processes to its end. -/
structure Advances (packages : Packages κ δ) (view : κ → View) (frame : ParsedFrame)
    (before after : HTTP2Session κ δ) (events : List Event) (reacted : View) : Prop where
  follows : FollowsFrame packages view frame before after events reacted
  placed : Placed (view before.connection.core).block frame
  frames : after.capture.frames = before.capture.frames ++ [frame]

/-- Capturing a frame adds it to the capture only. -/
theorem processFrame_advances (streams : packages.h2.Streams view)
    (captured : HTTP2FrameReader.Captured wire frame) {entries : Nat}
    (aligned : Aligned (openBlock view) state)
    (ran : processFrame packages frame wire (capturing state frame entries) = (.ok (), after)) :
    ∃ events reacted, Advances packages view frame state after events reacted := by
  -- Capturing the frame has touched neither the connection nor the request.
  have aligned' : Aligned (openBlock view) (capturing state frame entries) := aligned
  obtain ⟨admitted, handled⟩ := processFrame_ok captured ran
  obtain ⟨events, reacted, follows⟩ := processFrame_follows streams captured aligned' ran
  exact ⟨events, reacted, ⟨follows.reacts, follows.settles, follows.decoded, follows.dealt⟩,
    aligned'.placed admitted, handled.frames⟩

/-! ### Along a run -/

/-- A property that goes by the frames, the streams and the request of a session. -/
structure Following (packages : Packages κ δ) (view : κ → View)
    (property : HTTP2Session κ δ → Prop) : Prop where
  created : ∀ transport, property (create packages transport)
  quiet : ∀ {before after}, Answers view before.connection after.connection →
    after.capture = before.capture → after.request = before.request →
      property before → property after
  frame : ∀ {frame before after events reacted},
    Advances packages view frame before after events reacted → property before → property after

namespace Following

variable {property : HTTP2Session κ δ → Prop}

/-- A step that leaves everything alone that is followed. -/
structure Quiet (view : κ → View) (before after : HTTP2Session κ δ) : Prop where
  answers : Answers view before.connection after.connection
  capture : after.capture = before.capture
  continuationStream : after.continuationStream = before.continuationStream
  request : after.request = before.request

/-- Sending leaves alone what is followed. -/
theorem Quiet.flushed (ran : flush before = (.ok (), after)) :
    Quiet view before after := by
  obtain ⟨transport, shape⟩ := flush_shape before
  rw [ran] at shape
  obtain rfl : after = _ := shape
  exact ⟨⟨H2.View.Settles.refl _, rfl⟩, rfl, rfl, rfl⟩

/-- A call of the owner at most cuts streams short. -/
theorem Quiet.exchanged (streams : packages.h2.Streams view) (outcall : Outcall)
    (ran : (do callH2 packages outcall.method; flush) before = (.ok (), after)) :
    Quiet view before after := by
  obtain ⟨_, called, ran₁, ran₂⟩ := bind_eq_ok.mp ran
  obtain ⟨connection, rfl, answers⟩ := callH2_answers streams outcall ran₁
  have flushed : Quiet view _ after := Quiet.flushed ran₂
  exact ⟨answers.trans flushed.answers, flushed.capture, flushed.continuationStream,
    flushed.request⟩

/-- The preface opens no stream. -/
theorem Quiet.prefaced (streams : packages.h2.Streams view)
    (ran : onConnection (H2Adapter.receiveData packages http2Preface) before = (.ok events, after)) :
    Quiet view before after := by
  obtain ⟨raw, connection, called, -, rfl⟩ := receiveData_ok ran
  obtain ⟨greeted, decoder⟩ := H2Adapter.call_decodes packages.hpack
    (streams.prefaced before.connection.core) called
  refine ⟨⟨?_, decoder⟩, rfl, rfl, rfl⟩
  rw [(greeted raw rfl).2]
  exact H2.View.Settles.refl _

/-- The property holds, and the session expects what the library has open. -/
def Held (view : κ → View) (property : HTTP2Session κ δ → Prop) (session : HTTP2Session κ δ) :
    Prop :=
  Aligned (openBlock view) session ∧ property session

section Following

variable (following : Following packages view property)

include following

/-- Quiet steps keep what is followed. -/
theorem Held.quiet (quiet : Quiet view before after) (held : Held view property before) :
    Held view property after := by
  refine ⟨?_, following.quiet quiet.answers quiet.capture quiet.request held.2⟩
  rw [Aligned, quiet.continuationStream, openBlock, quiet.answers.settles.1]
  exact held.1

section Streams

variable (streams : packages.h2.Streams view)

include streams

/-- What is followed is kept by everything that happens between frames, and by the frames. -/
theorem framewise : Framewise packages (Held view property) where
  begins := Held.quiet following ⟨Answers.refl _, rfl, rfl, rfl⟩
  closes := Held.quiet following ⟨Answers.refl _, rfl, rfl, rfl⟩
  reads := Held.quiet following ⟨Answers.refl _, rfl, rfl, rfl⟩
  buffers state _ _ := Held.quiet following ⟨Answers.refl state.connection, rfl, rfl, rfl⟩
  flushes ran := Held.quiet following (Quiet.flushed ran)
  exchanges outcall _ _ ran := Held.quiet following (Quiet.exchanged streams outcall ran)
  prefaced ran := Held.quiet following (Quiet.prefaced streams ran)
  processes {_ frame entries state _} captured ran held := by
    obtain ⟨events, reacted, advances⟩ := processFrame_advances streams captured held.1 ran
    -- Capturing the frame has touched nothing that the session expects.
    have aligned : Aligned (openBlock view) (capturing state frame entries) := held.1
    exact ⟨aligned.processed streams.relays captured ran, following.frame advances held.2⟩

/-- A new session has nothing to follow yet. -/
theorem held_create (transport : Transport) : Held view property (create packages transport) :=
  ⟨(gathers_create streams.relays transport).aligned, following.created transport⟩

/-- What is followed holds whenever a session waits. -/
theorem waiting (waiting : Waiting packages state) : Held view property state :=
  waiting.holds (following.held_create streams) (following.framewise streams).stable

/-- What is followed holds between any two frames of a run that has not raised. -/
theorem between (between : Between packages state) : Held view property state :=
  between.holds (following.held_create streams) (following.framewise streams)

end Streams

end Following

end Following

end HTTP2Session

end SolveTls
